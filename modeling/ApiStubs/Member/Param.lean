import ApiStubs.TypeExpr.Text
import ApiStubs.TypeExpr.Written

/-! Method parameters. Type text is kept the way a parsed type is written, and a name that is a
reserved word is rewritten. -/

namespace ApiStubs

structure Param where
  typeText : Text
  name : Text
  deriving DecidableEq

namespace Param

def checkTypeText (value : Json) : Checked Text :=
  let text := Text.trim value.display
  if text = "" then .refuse .emptyString (.str text)
  else match TypeExpr.parse text with
    | .ok type => Json.checkNonEmpty type.render
    | .error fault => .ofFault fault value

def make (typeText name : Text) : Except Fault Param :=
  Checked.result "Parameter"
    (Param.mk <$> (checkTypeText (.str typeText)).under (.key "type")
      <*> pure (Lua.identifier name))

def type (p : Param) : Except Fault TypeExpr := TypeExpr.parse p.typeText

def shortTypeText (p : Param) : Text := Lua.shorten p.typeText

def shortName (p : Param) : Text := Lua.shorten p.name

def shortened (p : Param) : Except Fault Param := make p.shortTypeText p.shortName

def render (p : Param) : Text := Text.trim (p.typeText ++ " " ++ p.name)

def toJson (p : Param) : Json := .obj [("type", .str p.typeText), ("name", .str p.name)]

def parts (p : Param) : List RecordPart := [.text p.typeText, .text p.name]

def check : Json → Checked Param := Json.checkModel "Parameter" fun members =>
  Param.mk <$> checkMember members "type" checkTypeText
    <*> checkMemberOr "" members "name" fun value => pure (Lua.identifier value.display)

end Param
end ApiStubs
