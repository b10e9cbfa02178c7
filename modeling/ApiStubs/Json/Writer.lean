import ApiStubs.Json.Basic
import ApiStubs.Number.Shortest
import ApiStubs.Text.Quoted

/-! Writing JSON text: two spaces a level, one member or item a line, and only what must be is
escaped. -/

namespace ApiStubs.Json

def escape (c : CodePoint) : Text :=
  if c = '"' ∨ c = '\\' then ['\\', c]
  else if c = '\n' then "\\n"
  else if c = '\r' then "\\r"
  else if c = '\t' then "\\t"
  else if c.toNat = 8 then "\\b"
  else if c.toNat = 12 then "\\f"
  else if c.toNat < 0x20 || c.isSurrogate then '\\' :: 'u' :: Text.hexDigits 4 c.toNat
  else [c]

def stringText (s : Text) : Text := "\"" ++ s.flatMap escape ++ "\""

def newline (depth : Nat) : Text := '\n' :: List.replicate (2 * depth) ' '

def floatText : Binary64 → Text
  | .nan => "NaN"
  | .infinity negative => if negative then "-Infinity" else "Infinity"
  | x => x.text

/-- Contents stand on lines of their own, one level deeper; without any the brackets meet. -/
def enclose (opening closing : CodePoint) (depth : Nat) (contents : Text) : Text :=
  if contents.isEmpty then [opening, closing]
  else opening :: newline (depth + 1) ++ contents ++ newline depth ++ [closing]

mutual
def pretty (depth : Nat) : Json → Text
  | .null => "null"
  | .bool b => if b then "true" else "false"
  | .int i => toString i
  | .float x => floatText x
  | .str s => stringText s
  | .arr items => enclose '[' ']' depth (prettyItems (depth + 1) items)
  | .obj members => enclose '{' '}' depth (prettyMembers (depth + 1) members)

def prettyItems (depth : Nat) : List Json → Text
  | [] => []
  | [item] => item.pretty depth
  | item :: rest => item.pretty depth ++ "," ++ newline depth ++ prettyItems depth rest

def prettyMembers (depth : Nat) : List (Text × Json) → Text
  | [] => []
  | [(key, value)] => stringText key ++ ": " ++ value.pretty depth
  | (key, value) :: rest =>
      stringText key ++ ": " ++ value.pretty depth ++ "," ++ newline depth
        ++ prettyMembers depth rest
end

def write (value : Json) : Text := value.pretty 0

end ApiStubs.Json
