import ApiStubs.Number.Binary64
import ApiStubs.Text.Basic

/-! JSON values. An object keeps its members in the order of their first writing. -/

namespace ApiStubs

inductive Json
  | null
  | bool (value : Bool)
  | int (value : Int)
  | float (value : Binary64)
  | str (value : Text)
  | arr (items : List Json)
  | obj (members : List (Text × Json))

namespace Json

/-- A later member of a name that is already there takes its place. -/
def insert (members : List (Text × Json)) (key : Text) (value : Json) : List (Text × Json) :=
  match members with
  | [] => [(key, value)]
  | (k, v) :: rest =>
      if k = key then (k, value) :: rest else (k, v) :: insert rest key value

def strings (texts : List Text) : Json := .arr (texts.map .str)

def isTruthy : Json → Bool
  | .null => false
  | .bool b => b
  | .int i => i != 0
  | .float x => !x.isZero
  | .str s => !s.isEmpty
  | .arr items => !items.isEmpty
  | .obj members => !members.isEmpty

end Json
end ApiStubs
