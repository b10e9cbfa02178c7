import ApiStubs.TypeExpr.Text

/-! Types as a running program shows them: a name whose type arguments are erased, and the type
variables that its class declares. -/

namespace ApiStubs

structure ObservedType where
  name : Text
  parameters : List Text
  deriving DecidableEq

namespace ObservedType

def checkName (value : Json) : Checked Text :=
  value.checkNonEmptyString.andThen fun s =>
    match TypeExpr.parse (Text.trim s) with
    | .ok _ => .ok (Text.trim s)
    | .error fault => .ofFault fault value

def isGeneric (t : ObservedType) : Bool := !t.parameters.isEmpty

def toType (t : ObservedType) : Except Fault TypeExpr := TypeExpr.make t.name []

def toJson (t : ObservedType) : Json :=
  .obj [("name", .str t.name), ("type_parameters", .strings t.parameters)]

def checkMembers (members : List (Text × Json)) : Checked ObservedType :=
  ObservedType.mk <$> checkMember members "name" checkName
    <*> checkMemberOr [] members "type_parameters" Json.checkStrings

def check : Json → Checked ObservedType
  | .str s => checkMembers [("name", .str s)]
  | value => value.checkModel "ReflectedType" checkMembers

end ObservedType
end ApiStubs
