import ApiStubs.Number.WrittenInt
import ApiStubs.Validation.Checked

/-! Strings, booleans, integers and lists as values of members. Booleans and integers are also taken
from numbers and texts that stand for them. -/

namespace ApiStubs.Json

def checkString : Json → Checked Text
  | .str s => .ok s
  | value => .refuse .notString value

/-- The length of a torn text cannot be told. -/
def checkNonEmpty (s : Text) : Checked Text :=
  if s.isTorn then .refuse .tornString (.str s)
  else if s = "" then .refuse .emptyString (.str s)
  else .ok s

def checkNonEmptyString (value : Json) : Checked Text := value.checkString.andThen checkNonEmpty

def checkList {α : Type} (check : Json → Checked α) : Json → Checked (List α)
  | .arr items => .each check items
  | value => .refuse .notList value

def checkTuple {α : Type} (check : Json → Checked α) : Json → Checked (List α)
  | .arr items => .each check items
  | value => .refuse .notTuple value

def checkStrings (value : Json) : Checked (List Text) := value.checkList checkString

def trueTexts : List Text := ["1", "on", "t", "true", "y", "yes"]
def falseTexts : List Text := ["0", "off", "f", "false", "n", "no"]

def lowerLetter : CodePoint → CodePoint
  | .char c => c.toLower
  | c => c

def booleanOfText? (s : Text) : Option Bool :=
  let t := s.map lowerLetter
  if trueTexts.contains t then some true
  else if falseTexts.contains t then some false
  else none

def fitsWord (i : Int) : Bool := -0x8000000000000000 ≤ i && i < 0x8000000000000000

def checkBoolean (value : Json) : Checked Bool :=
  match value with
  | .bool b => .ok b
  | .str s => match booleanOfText? s with
      | some b => .ok b
      | none => .refuse (if s.isTorn then .tornString else .unreadableBoolean) value
  | .int i =>
      if i = 0 then .ok false
      else if i = 1 then .ok true
      else .refuse (if fitsWord i then .unreadableBoolean else .notBoolean) value
  | .float x => match x.toInt? with
      | some 0 => .ok false
      | some 1 => .ok true
      | some i => .refuse (if i.natAbs < 0x8000000000000000 then .unreadableBoolean else .notBoolean) value
      | none => .refuse .notBoolean value
  | _ => .refuse .notBoolean value

def checkInteger (value : Json) : Checked Int :=
  match value with
  | .int i => .ok i
  | .bool b => .ok (if b then 1 else 0)
  | .str s =>
      if s.isTorn then .refuse .tornString value
      else match WrittenInt.read s with
        | .ok i => .ok i
        | .error .tooLong => .refuse .hugeInteger value
        | .error .unreadable => .refuse .unreadableInteger value
  | .float .nan => .refuse .notFinite value
  | .float (.infinity _) => .refuse .notFinite value
  | .float x => match x.toInt? with
      | some i => if i.natAbs < 0x8000000000000000 then .ok i else .refuse .hugeInteger value
      | none => .refuse .fractional value
  | _ => .refuse .notInteger value

end ApiStubs.Json
