import ApiStubs.Member.Field
import ApiStubs.Member.Method
import ApiStubs.Observed.Type

/-! Exposed classes and their members as a running program shows them. -/

namespace ApiStubs

structure ObservedField where
  name : Text
  type : ObservedType
  modifiers : List Text
  synthetic : Bool
  deriving DecidableEq

structure ObservedParam where
  type : ObservedType
  name : Text
  deriving DecidableEq

structure ObservedMethod where
  name : Text
  params : List ObservedParam
  returns : ObservedType
  modifiers : List Text
  synthetic : Bool
  deriving DecidableEq

structure ObservedClass where
  name : Text
  modifiers : List Text
  fields : List ObservedField
  methods : List ObservedMethod
  deriving DecidableEq

namespace ObservedField

def toField (f : ObservedField) : Except Fault Field := do
  return Field.make f.name (← f.type.toType) f.modifiers

def toJson (f : ObservedField) : Json :=
  .obj [("name", .str f.name), ("type", f.type.toJson), ("modifiers", .strings f.modifiers),
    ("synthetic", .bool f.synthetic)]

def check : Json → Checked ObservedField := Json.checkModel "ReflectedField" fun members =>
  ObservedField.mk <$> checkMember members "name" Json.checkNonEmptyString
    <*> checkMember members "type" ObservedType.check
    <*> checkMemberOr [] members "modifiers" Json.checkStrings
    <*> checkMemberOr false members "synthetic" Json.checkBoolean

end ObservedField

namespace ObservedParam

def toParam (p : ObservedParam) : Except Fault Param := Param.make p.type.name p.name

def toJson (p : ObservedParam) : Json := .obj [("type", p.type.toJson), ("name", .str p.name)]

def check : Json → Checked ObservedParam := Json.checkModel "ReflectedParameter" fun members =>
  ObservedParam.mk <$> checkMember members "type" ObservedType.check
    <*> checkMemberOr "" members "name" Json.checkString

end ObservedParam

namespace ObservedMethod

def toMethod (m : ObservedMethod) : Except Fault Method := do
  let params ← m.params.mapM ObservedParam.toParam
  return Method.make m.name params (← m.returns.toType) m.modifiers

def toJson (m : ObservedMethod) : Json :=
  .obj [("name", .str m.name), ("parameters", .arr (m.params.map ObservedParam.toJson)),
    ("return_type", m.returns.toJson), ("modifiers", .strings m.modifiers),
    ("synthetic", .bool m.synthetic)]

def noValue : ObservedType := ⟨"void", []⟩

def check : Json → Checked ObservedMethod := Json.checkModel "ReflectedMethod" fun members =>
  ObservedMethod.mk <$> checkMember members "name" Json.checkNonEmptyString
    <*> checkMemberOr [] members "parameters" (Json.checkList ObservedParam.check)
    <*> checkMemberOr noValue members "return_type" ObservedType.check
    <*> checkMemberOr [] members "modifiers" Json.checkStrings
    <*> checkMemberOr false members "synthetic" Json.checkBoolean

end ObservedMethod

namespace ObservedClass

def toJson (c : ObservedClass) : Json :=
  .obj [("name", .str c.name), ("modifiers", .strings c.modifiers),
    ("fields", .arr (c.fields.map ObservedField.toJson)),
    ("methods", .arr (c.methods.map ObservedMethod.toJson))]

def check : Json → Checked ObservedClass := Json.checkModel "ReflectedClass" fun members =>
  ObservedClass.mk <$> checkMember members "name" Json.checkNonEmptyString
    <*> checkMemberOr [] members "modifiers" Json.checkStrings
    <*> checkMemberOr [] members "fields" (Json.checkList ObservedField.check)
    <*> checkMemberOr [] members "methods" (Json.checkList ObservedMethod.check)

end ObservedClass
end ApiStubs
