import ApiStubs.Json.Basic
import ApiStubs.Number.Shortest
import ApiStubs.Text.Quoted

/-! JSON values as text in messages and names: a bare string stands as it is, a nested one is
quoted. -/

namespace ApiStubs.Json

mutual
def inner : Json → Text
  | .null => "None"
  | .bool b => if b then "True" else "False"
  | .int i => toString i
  | .float x => x.text
  | .str s => Text.quoted s
  | .arr items => "[" ++ innerItems items ++ "]"
  | .obj members => "\x7b" ++ innerMembers members ++ "\x7d"

def innerItems : List Json → Text
  | [] => ""
  | [item] => item.inner
  | item :: rest => item.inner ++ ", " ++ innerItems rest

def innerMembers : List (Text × Json) → Text
  | [] => ""
  | [(key, value)] => Text.quoted key ++ ": " ++ value.inner
  | (key, value) :: rest => Text.quoted key ++ ": " ++ value.inner ++ ", " ++ innerMembers rest
end

def kindName : Json → Text
  | .null => "NoneType"
  | .bool _ => "bool"
  | .int _ => "int"
  | .float _ => "float"
  | .str _ => "str"
  | .arr _ => "list"
  | .obj _ => "dict"

def display : Json → Text
  | .str s => s
  | value => value.inner

end ApiStubs.Json
