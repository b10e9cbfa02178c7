import ApiStubs.Lua.Naming
import ApiStubs.Text.Sorted
import ApiStubs.Validation.Scalar

/-! Modifier words in canonical form: trimmed, in lower case, without blanks or repetitions, in
ascending order. -/

namespace ApiStubs.Modifiers

def normalizeWord (text : Text) : Text := Text.lower (Text.trim text)

def normalize (texts : List Text) : List Text :=
  Sorted.sortOnce ((texts.filter fun text => !Text.isBlankText text).map normalizeWord)

def ofJson : Json → Except Fault (List Text)
  | .null => .ok []
  | .str text => .ok (normalize (Text.words text))
  | .arr items => .ok (normalize (items.map Json.display))
  | .obj members => .ok (normalize (members.map Prod.fst))
  | .bool _ => .error (.notIterable "bool")
  | .int _ => .error (.notIterable "int")
  | .float _ => .error (.notIterable "float")

def check (value : Json) : Checked (List Text) :=
  match ofJson value with
  | .ok modifiers => .ok modifiers
  | .error fault => .stopped fault

end ApiStubs.Modifiers
