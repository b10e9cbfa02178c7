import ApiStubs.Member.Param
import ApiStubs.Modifiers

/-! Resolved class methods. Overloads are told apart by the types of their parameters. -/

namespace ApiStubs

structure Method where
  name : Text
  params : List Param
  returns : TypeExpr
  modifiers : List Text
  deriving DecidableEq

namespace Method

def make (name : Text) (params : List Param) (returns : TypeExpr) (modifiers : List Text) :
    Method :=
  ⟨name, params, returns, Modifiers.normalize modifiers⟩

def signature (qualified : Bool) (m : Method) : Text × List Text :=
  (m.name, m.params.map fun p => if qualified then p.typeText else p.shortTypeText)

def render (m : Method) : Text :=
  m.returns.render ++ " " ++ m.name ++ "(" ++ Text.join ", " (m.params.map Param.render) ++ ")"

def toJson (m : Method) : Json :=
  .obj [("name", .str m.name), ("parameters", .arr (m.params.map Param.toJson)),
    ("return_type", m.returns.toJson), ("modifiers", .strings m.modifiers)]

def parts (m : Method) : List RecordPart :=
  .text m.name :: m.params.flatMap Param.parts ++ .type m.returns :: RecordPart.texts m.modifiers

def record (m : Method) : Except RecordFault Json := recordOf m.parts m.toJson

def noValue : TypeExpr := ⟨"void", []⟩

def check : Json → Checked Method := Json.checkModel "MethodDescriptor" fun members =>
  Method.mk <$> checkMember members "name" Json.checkString
    <*> checkMemberOr [] members "parameters" (Json.checkTuple Param.check)
    <*> checkMemberOr noValue members "return_type" TypeExpr.checkOfMember
    <*> checkMemberOr [] members "modifiers" Modifiers.check

end Method
end ApiStubs
