import ApiStubs.Member.Field
import ApiStubs.Member.Method

/-! The merged members of one class: fields unique by name, methods unique by signature. -/

namespace ApiStubs

structure ClassStub where
  name : Text
  modifiers : List Text
  fields : List Field
  methods : List Method
  deriving DecidableEq

namespace ClassStub

def hasRepeats {α : Type} [DecidableEq α] : List α → Bool
  | [] => false
  | x :: rest => decide (x ∈ rest) || hasRepeats rest

def checkUnique (input : Json) (c : ClassStub) : Checked ClassStub :=
  if hasRepeats (c.fields.map Field.name) then
    .refuse (.broken ("Duplicate field names in class " ++ c.name)) input
  else if hasRepeats (c.methods.map (Method.signature true)) then
    .refuse (.broken ("Duplicate method signatures in class " ++ c.name)) input
  else .ok c

def toJson (c : ClassStub) : Json :=
  .obj [("name", .str c.name), ("modifiers", .strings c.modifiers),
    ("fields", .arr (c.fields.map Field.toJson)), ("methods", .arr (c.methods.map Method.toJson))]

def parts (c : ClassStub) : List RecordPart :=
  .text c.name :: RecordPart.texts c.modifiers ++ c.fields.flatMap Field.parts
    ++ c.methods.flatMap Method.parts

def record (c : ClassStub) : Except RecordFault Json := recordOf c.parts c.toJson

def make (name : Text) (modifiers : List Text) (fields : List Field) (methods : List Method) :
    Except Fault ClassStub :=
  let c : ClassStub := ⟨name, Modifiers.normalize modifiers, fields, methods⟩
  Checked.result "ClassDescriptor" (c.checkUnique c.toJson)

def check : Json → Checked ClassStub := Json.checkModel "ClassDescriptor" fun members =>
  (ClassStub.mk <$> checkMember members "name" Json.checkString
    <*> checkMemberOr [] members "modifiers" Modifiers.check
    <*> checkMemberOr [] members "fields" (Json.checkTuple Field.check)
    <*> checkMemberOr [] members "methods" (Json.checkTuple Method.check)).andThen
      (checkUnique (.obj members))

def field? (c : ClassStub) (name : Text) : Option Field := c.fields.find? (·.name == name)

def methodsNamed (c : ClassStub) (name : Text) : List Method := c.methods.filter (·.name == name)

end ClassStub
end ApiStubs
