import ApiStubs.Member.Field
import ApiStubs.Member.Method

/-! Fields and methods as documentation writes them. Types are text and may have arguments. -/

namespace ApiStubs

structure DocumentedField where
  name : Text
  typeText : Text
  modifiers : List Text
  deriving DecidableEq

structure DocumentedMethod where
  name : Text
  params : List Param
  returnText : Text
  modifiers : List Text
  deriving DecidableEq

namespace DocumentedField

def toField (f : DocumentedField) : Except Fault Field := do
  return Field.make f.name (← TypeExpr.parse f.typeText) f.modifiers

def toJson (f : DocumentedField) : Json :=
  .obj [("name", .str f.name), ("type", .str f.typeText), ("modifiers", .strings f.modifiers)]

def check : Json → Checked DocumentedField := Json.checkModel "FieldEntry" fun members =>
  DocumentedField.mk <$> checkMember members "name" Json.checkString
    <*> checkMember members "type" Json.checkString
    <*> checkMemberOr [] members "modifiers" Json.checkStrings

end DocumentedField

namespace DocumentedMethod

def toMethod (m : DocumentedMethod) : Except Fault Method := do
  return Method.make m.name m.params (← TypeExpr.parse m.returnText) m.modifiers

def toJson (m : DocumentedMethod) : Json :=
  .obj [("name", .str m.name), ("parameters", .arr (m.params.map Param.toJson)),
    ("return_type", .str m.returnText), ("modifiers", .strings m.modifiers)]

def check : Json → Checked DocumentedMethod := Json.checkModel "MethodEntry" fun members =>
  DocumentedMethod.mk <$> checkMember members "name" Json.checkString
    <*> checkMemberOr [] members "parameters" (Json.checkList Param.check)
    <*> checkMemberOr "void" members "return_type" Json.checkString
    <*> checkMemberOr [] members "modifiers" Json.checkStrings

end DocumentedMethod
end ApiStubs
