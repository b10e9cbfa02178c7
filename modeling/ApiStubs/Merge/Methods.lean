import ApiStubs.Member.Matching
import ApiStubs.Merge.Basic
import ApiStubs.Observed.Class

/-! Methods of a class. A documented overload with the same signature replaces the observed one. -/

namespace ApiStubs.Merge

def undocumentedMethod (className page method : Text) : Diagnostic :=
  .make .methodUndocumented className
    ("Didn't find matching method \"" ++ method ++ "\" in document \"" ++ page ++ "\"")
    (some method)

def chooseMethod (className : Text) (observed : Method) :
    Option (Text × List Method) → Merging Method
  | none => return observed
  | some (page, overloads) => do
      match ← Merging.made (observed.findMatch? true overloads) with
      | some documented => return documented
      | none =>
          Traced.report (undocumentedMethod className page observed.name)
          return observed

def resolveMethod (className : Text) (m : ObservedMethod) : Merging Method := do
  let observed ← Merging.made m.toMethod
  chooseMethod className observed (← Merging.ask fun page => page.methodsNamed m.name)

def methodsFrom (className : Text) (taken : List (Text × List Text)) :
    List ObservedMethod → Merging (List Method)
  | [] => return []
  | m :: rest =>
      if m.synthetic then methodsFrom className taken rest
      else do
        let resolved ← resolveMethod className m
        let signature := resolved.signature true
        if taken.contains signature then methodsFrom className taken rest
        else return resolved :: (← methodsFrom className (signature :: taken) rest)

def methods (c : ObservedClass) : Merging (List Method) := methodsFrom c.name [] c.methods

end ApiStubs.Merge
