import ApiStubs.Merge.Basic
import ApiStubs.Observed.Class

/-! Fields of a class. The running program gives the fields; for a generic one the page gives the
type, provided that it has the same base. -/

namespace ApiStubs.Merge

/-- The field with its type erased, which stands where no documented type does. -/
def placeholder (f : ObservedField) : Except Fault Field := do
  return Field.make f.name (← (← f.type.toType).erased) f.modifiers

def undocumentedField (className page field : Text) : Diagnostic :=
  .make .fieldUndocumented className
    ("Didn't find matching field \"" ++ field ++ "\" in document \"" ++ page ++ "\"") (some field)

def mismatchedField (className page : Text) (documented expected : Field) : Diagnostic :=
  .make .fieldMismatch className
    ("Documented field \"" ++ expected.name ++ "\" in \"" ++ page ++ "\" has type "
      ++ documented.type.render ++ ", expected " ++ expected.type.render) (some expected.name)

/-- The documented type is taken only for the same base; modifiers are always the observed ones. -/
def chooseField (className : Text) (expected : Field) :
    Option (Text × Option Field) → Merging Field
  | none => return expected
  | some (page, none) => do
      Traced.report (undocumentedField className page expected.name)
      return expected
  | some (page, some documented) =>
      if documented.type.sameBase true expected.type then
        return documented.withModifiers expected.modifiers
      else do
        Traced.report (mismatchedField className page documented expected)
        return expected

def resolveField (className : Text) (f : ObservedField) : Merging Field :=
  if f.type.isGeneric then do
    let expected ← Merging.made (placeholder f)
    chooseField className expected (← Merging.ask fun page => page.field? f.name)
  else Merging.made f.toField

/-- Synthetic fields are left out, and of several fields of one name the first counts. -/
def fieldsFrom (className : Text) (taken : List Text) :
    List ObservedField → Merging (List Field)
  | [] => return []
  | f :: rest =>
      if f.synthetic || taken.contains f.name then fieldsFrom className taken rest
      else do
        let resolved ← resolveField className f
        return resolved :: (← fieldsFrom className (f.name :: taken) rest)

def fields (c : ObservedClass) : Merging (List Field) := fieldsFrom c.name [] c.fields

end ApiStubs.Merge
