import ApiStubs.ClassStub
import ApiStubs.Merge.Fields
import ApiStubs.Merge.Methods

/-! Whole classes: fields first, then methods. A fault in either leaves no class. -/

namespace ApiStubs.Merge

def wholeClass (c : ObservedClass) : Merging ClassStub := do
  let fields ← fields c
  let methods ← methods c
  Merging.made (ClassStub.make c.name c.modifiers fields methods)

end ApiStubs.Merge
