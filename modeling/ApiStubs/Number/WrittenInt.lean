import ApiStubs.Number.Digits
import ApiStubs.Text.Blank

/-! Whole numbers as people write them: a sign, idle zeros in front, single underscores between the
digits, and a point with nothing but zeros behind it. -/

namespace ApiStubs.WrittenInt

open Digits (isDigit)

inductive Fault
  | unreadable
  | tooLong

def unsigned (text : Text) : Except Fault Nat :=
  let digits := text.takeWhile isDigit
  if digits.isEmpty || (digits.head? == some (.char '0') && text != "0") then .error .unreadable
  else if Digits.limit < digits.length then .error .tooLong
  else if digits.length < text.length then .error .unreadable
  else .ok (Digits.value digits)

/-- A sign is no digit, so it does not count towards the limit. -/
def plain : Text → Except Fault Int
  | .char '-' :: rest => (unsigned rest).map fun n => -(n : Int)
  | text => (unsigned text).map fun n => (n : Int)

def dropPlus? : Text → Option Text
  | .char '+' :: .char '-' :: _ => none
  | .char '+' :: rest => some rest
  | text => some text

def cutMinus : Text → Text × Text
  | .char '-' :: rest => ("-", rest)
  | text => ([], text)

/-- What follows zeros and underscores, of which `last` is the last one; a point keeps it. -/
def afterZero? (last : CodePoint) : Text → Option Text
  | [] => some [last]
  | c :: rest =>
      if c = '0' ∨ c = '_' then afterZero? c rest
      else if isDigit c ∨ c = '-' then some (c :: rest)
      else if c = '.' then some (last :: c :: rest)
      else none

def dropZeros? : Text → Option Text
  | [] => none
  | c :: rest =>
      if c = '0' then afterZero? c rest
      else if isDigit c then some (c :: rest)
      else none

def isZero (c : CodePoint) : Bool := c == '0'

def isBeforePoint (c : CodePoint) : Bool := c != '.'

def dropPoint (text : Text) : Text :=
  match text.span isBeforePoint with
  | (whole, _ :: zeros) => if !zeros.isEmpty && zeros.all isZero then whole else text
  | _ => text

def joinGroups (text : Text) : Text :=
  let groups := Text.splitWhen Digits.isGroupMark text
  if groups.any List.isEmpty then text else groups.flatten

def bare? (text : Text) : Option Text := do
  let (sign, magnitude) := cutMinus (← dropPlus? (Text.trimBy Text.isWhiteSpace text))
  return sign ++ joinGroups (dropPoint (← dropZeros? magnitude))

/-- White space around a number does not count, except for the length of a plain one. -/
def read (text : Text) : Except Fault Int :=
  match plain text with
  | .error .unreadable =>
      match (bare? text).map plain with
      | some (.ok i) => .ok i
      | _ => .error .unreadable
  | result => result

end ApiStubs.WrittenInt
