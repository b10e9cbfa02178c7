import ApiStubs.Json.Basic
import ApiStubs.Number.Digits

/-! Reading JSON text. Besides the standard grammar the literals NaN, Infinity and -Infinity are
numbers. A fault names what was expected and where, or the limit that the text goes beyond. -/

namespace ApiStubs.Json

open Digits (isDigit)

inductive Problem
  | value
  | propertyName
  | colon
  | comma
  | unterminated
  | control
  | escape
  | unicodeEscape
  | extra
  | byteOrderMark

def Problem.message : Problem → Text
  | .value => "Expecting value"
  | .propertyName => "Expecting property name enclosed in double quotes"
  | .colon => "Expecting ':' delimiter"
  | .comma => "Expecting ',' delimiter"
  | .unterminated => "Unterminated string starting at"
  | .control => "Invalid control character at"
  | .escape => "Invalid \\escape"
  | .unicodeEscape => "Invalid \\uXXXX escape"
  | .extra => "Extra data"
  | .byteOrderMark => "Unexpected UTF-8 BOM (decode using utf-8-sig)"

inductive Container
  | array
  | object

def Container.name : Container → Text
  | .array => "array"
  | .object => "object"

/-- How many arrays and objects may lie in each other: a setting of the machine that reads. -/
class DepthLimit where
  levels : Nat

/-- The setting of a machine that was left as it is. -/
@[reducible] def DepthLimit.usual : DepthLimit := ⟨990⟩

inductive Limit
  | digits (count : Nat)
  | depth (container : Container)

def Limit.message : Limit → Text
  | .digits count =>
      "Exceeds the limit (" ++ toString Digits.limit ++ " digits) for integer string conversion: "
        ++ "value has " ++ toString count
        ++ " digits; use sys.set_int_max_str_digits() to increase the limit"
  | .depth container =>
      "maximum recursion depth exceeded while decoding a JSON " ++ container.name
        ++ " from a unicode string"

/-- The place of a problem is counted from the end of the text: `remaining` characters are left
there. -/
inductive ReadFault
  | malformed (problem : Problem) (remaining : Nat)
  | beyond (limit : Limit)

abbrev Reading := Except ReadFault

def failAt {α : Type} (problem : Problem) (rest : Text) : Reading α :=
  .error (.malformed problem rest.length)

def isSpace (c : CodePoint) : Bool := c == ' ' || c == '\t' || c == '\n' || c == '\r'

def skipSpace (text : Text) : Text := text.dropWhile isSpace

def hexValue? (c : CodePoint) : Option Nat :=
  if '0' ≤ c ∧ c ≤ '9' then some (c.toNat - 48)
  else if 'a' ≤ c ∧ c ≤ 'f' then some (c.toNat - 87)
  else if 'A' ≤ c ∧ c ≤ 'F' then some (c.toNat - 55)
  else none

def hexQuad? : Text → Option (Nat × Text)
  | a :: b :: c :: d :: next :: rest => do
      let a ← hexValue? a
      let b ← hexValue? b
      let c ← hexValue? c
      let d ← hexValue? d
      return (((a * 16 + b) * 16 + c) * 16 + d, next :: rest)
  | _ => none

def isHighSurrogate (n : Nat) : Bool := 0xD800 ≤ n && n < 0xDC00

def isLowSurrogate (n : Nat) : Bool := 0xDC00 ≤ n && n < 0xE000

def readUnit (text : Text) : Reading (CodePoint × Text) :=
  match hexQuad? text with
  | none => failAt .unicodeEscape ('u' :: text)
  | some (high, rest) =>
      match isHighSurrogate high, rest with
      | true, .char '\\' :: .char 'u' :: digits =>
          match hexQuad? digits with
          | none => failAt .unicodeEscape ('u' :: digits)
          | some (low, after) =>
              if isLowSurrogate low then
                .ok (.ofNat (0x10000 + (high - 0xD800) * 0x400 + (low - 0xDC00)), after)
              else .ok (.ofNat high, rest)
      | _, _ => .ok (.ofNat high, rest)

def namedEscape? : CodePoint → Option CodePoint
  | .char '"' => some '"'
  | .char '\\' => some '\\'
  | .char '/' => some '/'
  | .char 'b' => some (.ofNat 8)
  | .char 'f' => some (.ofNat 12)
  | .char 'n' => some '\n'
  | .char 'r' => some '\r'
  | .char 't' => some '\t'
  | _ => none

def readEscape (opening : Text) : Text → Reading (CodePoint × Text)
  | [] => failAt .unterminated opening
  | .char 'u' :: rest => readUnit rest
  | c :: rest =>
      match namedEscape? c with
      | some plain => .ok (plain, rest)
      | none => failAt .escape ('\\' :: c :: rest)

def readPoints (opening : Text) : Nat → Text →
    Reading (Text × Text)
  | 0, _ => failAt .unterminated opening
  | _, [] => failAt .unterminated opening
  | _ + 1, .char '"' :: rest => .ok ([], rest)
  | fuel + 1, .char '\\' :: rest => do
      let (c, rest) ← readEscape opening rest
      let (more, rest) ← readPoints opening fuel rest
      return (c :: more, rest)
  | fuel + 1, c :: rest =>
      if c.toNat < 0x20 then failAt .control (c :: rest)
      else do
        let (more, rest) ← readPoints opening fuel rest
        return (c :: more, rest)

def readString (fuel : Nat) (rest : Text) : Reading (Text × Text) :=
  readPoints ('"' :: rest) fuel rest

/-- A point counts only if a digit follows it. -/
def readFraction : Text → Text × Text
  | .char '.' :: rest =>
      let digits := rest.takeWhile isDigit
      if digits.isEmpty then ([], '.' :: rest) else (digits, rest.dropWhile isDigit)
  | text => ([], text)

def readSign : Text → Bool × Text
  | .char '-' :: rest => (true, rest)
  | .char '+' :: rest => (false, rest)
  | rest => (false, rest)

def readExponent (text : Text) : Option Int × Text :=
  match text with
  | mark :: rest =>
      if mark = 'e' ∨ mark = 'E' then
        let (negative, rest) := readSign rest
        let digits := rest.takeWhile isDigit
        if digits.isEmpty then (none, text)
        else
          let size : Int := Digits.value digits
          (some (if negative then -size else size), rest.dropWhile isDigit)
      else (none, text)
  | [] => (none, text)

def number (negative : Bool) (whole fraction : Text) (exponent : Option Int) :
    Reading Json :=
  if fraction.isEmpty && exponent.isNone then
    if Digits.limit < whole.length then .error (.beyond (.digits whole.length))
    else
      let size : Int := Digits.value whole
      .ok (.int (if negative then -size else size))
  else
    .ok (.float (Binary64.ofDecimal negative (Digits.value (whole ++ fraction))
      (exponent.getD 0 - fraction.length)))

def readUnsigned? (negative : Bool) (text : Text) : Option (Reading Json × Text) :=
  let whole : Text := match text with
    | .char '0' :: _ => "0"
    | _ => text.takeWhile isDigit
  if whole.isEmpty then none
  else
    let (fraction, rest) := readFraction (text.drop whole.length)
    let (exponent, rest) := readExponent rest
    some (number negative whole fraction exponent, rest)

def readNumber? : Text → Option (Reading Json × Text)
  | .char '-' :: rest => readUnsigned? true rest
  | text => readUnsigned? false text

def literals : List (Text × Json) :=
  [("null", .null), ("true", .bool true), ("false", .bool false), ("NaN", .float .nan),
   ("Infinity", .float (.infinity false)), ("-Infinity", .float (.infinity true))]

def readLiteral? (text : Text) : Option (Json × Text) :=
  literals.findSome? fun ((word, value) : Text × Json) =>
    if word.isPrefixOf text then some (value, text.drop word.length) else none

def readScalar (text : Text) : Reading (Json × Text) :=
  match readLiteral? text, readNumber? text with
  | some reading, _ => .ok reading
  | none, some (value, rest) => value.map (·, rest)
  | none, none => failAt .value text

mutual
/-- Of two calls one takes a character off the text, so twice its length is fuel enough. -/
def readValue (levels : Nat) : Nat → Text → Reading (Json × Text)
  | 0, text => failAt .value text
  | fuel + 1, text =>
      match text, levels with
      | .char '"' :: rest, _ => do
          let (text, rest) ← readString fuel rest
          return (.str text, rest)
      | .char '{' :: _, 0 => .error (.beyond (.depth .object))
      | .char '[' :: _, 0 => .error (.beyond (.depth .array))
      | .char '{' :: rest, levels + 1 =>
          match skipSpace rest with
          | .char '}' :: rest => .ok (.obj [], rest)
          | rest => do
              let (members, rest) ← readMembers levels fuel [] rest
              return (.obj members, rest)
      | .char '[' :: rest, levels + 1 =>
          match skipSpace rest with
          | .char ']' :: rest => .ok (.arr [], rest)
          | rest => do
              let (items, rest) ← readItems levels fuel rest
              return (.arr items, rest)
      | text, _ => readScalar text

def readItems (levels : Nat) : Nat → Text → Reading (List Json × Text)
  | 0, text => failAt .value text
  | fuel + 1, text => do
      let (item, rest) ← readValue levels fuel text
      match skipSpace rest with
      | .char ']' :: rest => return ([item], rest)
      | .char ',' :: rest =>
          let (more, rest) ← readItems levels fuel (skipSpace rest)
          return (item :: more, rest)
      | rest => failAt .comma rest

def readMembers (levels : Nat) : Nat → List (Text × Json) → Text →
    Reading (List (Text × Json) × Text)
  | fuel + 1, members, .char '"' :: rest => do
      let (key, rest) ← readString fuel rest
      match skipSpace rest with
      | .char ':' :: rest =>
          let (value, rest) ← readValue levels fuel (skipSpace rest)
          let members := insert members key value
          match skipSpace rest with
          | .char '}' :: rest => return (members, rest)
          | .char ',' :: rest => readMembers levels fuel members (skipSpace rest)
          | rest => failAt .comma rest
      | rest => failAt .colon rest
  | _, _, text => failAt .propertyName text
end

def readText [DepthLimit] (text : Text) : Reading Json := do
  if text.head? = some (.ofNat 0xFEFF) then failAt .byteOrderMark text
  else
    let text := skipSpace text
    let (value, rest) ← readValue DepthLimit.levels (2 * text.length + 2) text
    match skipSpace rest with
    | [] => return value
    | rest => failAt .extra rest

/-- Lines and columns count from one, characters from zero. -/
def Problem.placed (p : Problem) (before : Text) : Text :=
  let column := (before.reverse.takeWhile (fun c : CodePoint => c != '\n')).length + 1
  p.message ++ ": line " ++ toString (before.count (.char '\n') + 1) ++ " column "
    ++ toString column ++ " (char " ++ toString before.length ++ ")"

def ReadFault.message (text : Text) : ReadFault → Text
  | .malformed problem remaining => problem.placed (text.take (text.length - remaining))
  | .beyond limit => limit.message

end ApiStubs.Json
