import ApiStubs.Modifiers
import ApiStubs.TypeExpr.Text
import ApiStubs.TypeExpr.Written

/-! Resolved class fields. -/

namespace ApiStubs

structure Field where
  name : Text
  type : TypeExpr
  modifiers : List Text
  deriving DecidableEq

namespace Field

def make (name : Text) (type : TypeExpr) (modifiers : List Text) : Field :=
  ⟨name, type, Modifiers.normalize modifiers⟩

def withModifiers (f : Field) (modifiers : List Text) : Field :=
  { f with modifiers := Modifiers.normalize modifiers }

def render (f : Field) : Text := f.type.render ++ " " ++ f.name

def toJson (f : Field) : Json :=
  .obj [("name", .str f.name), ("type", f.type.toJson), ("modifiers", .strings f.modifiers)]

def parts (f : Field) : List RecordPart :=
  .text f.name :: .type f.type :: RecordPart.texts f.modifiers

def record (f : Field) : Except RecordFault Json := recordOf f.parts f.toJson

def check : Json → Checked Field := Json.checkModel "FieldDescriptor" fun members =>
  Field.mk <$> checkMember members "name" Json.checkString
    <*> checkMember members "type" TypeExpr.checkOfMember
    <*> checkMemberOr [] members "modifiers" Modifiers.check

end Field
end ApiStubs
