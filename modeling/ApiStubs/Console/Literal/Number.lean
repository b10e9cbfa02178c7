import ApiStubs.Number.Digits

/-! Numbers in literals: whole numbers in four bases, decimal fractions with an exponent, and
imaginary numbers, which end with a `j`. -/

namespace ApiStubs.Literal

open Digits (isDigit)

/-- How far a part of a literal goes: what follows it. -/
abbrev Reach := Text → Option Text

inductive Number
  | whole (value : Nat)
  | fraction
  | imaginary

namespace Number

/-- A real number can be added to an imaginary one unless it rounds to a value that no binary
number of 64 bits has. -/
def isAddend : Number → Bool
  | whole value => value < Nat.pow 2 1024 - Nat.pow 2 970
  | fraction => true
  | imaginary => false

def grouped (kind : CodePoint → Bool) : Reach
  | c :: .char '_' :: d :: rest =>
      if !kind c then none
      else if kind d then grouped kind (d :: rest)
      else some ('_' :: d :: rest)
  | c :: rest => if kind c then some ((grouped kind rest).getD rest) else none
  | [] => none

def dropSign : Text → Text
  | .char '+' :: rest => rest
  | .char '-' :: rest => rest
  | text => text

def dropExponent (text : Text) : Text :=
  match text with
  | .char 'e' :: rest | .char 'E' :: rest => (grouped isDigit (dropSign rest)).getD text
  | _ => text

def dropImaginary : Text → Text
  | .char 'j' :: rest => rest
  | .char 'J' :: rest => rest
  | text => text

def dropFraction : Text → Text
  | .char '.' :: rest => (grouped isDigit rest).getD rest
  | text => text

def decimal (text : Text) : Option Text :=
  let rest := match text with
    | .char '.' :: rest => grouped isDigit rest
    | text => (grouped isDigit text).map dropFraction
  rest.map fun rest => dropImaginary (dropExponent rest)

def isHex (c : CodePoint) : Bool :=
  isDigit c || ('a' ≤ c && c ≤ 'f') || ('A' ≤ c && c ≤ 'F')

def isOctal (c : CodePoint) : Bool := '0' ≤ c && c ≤ '7'

def isBinary (c : CodePoint) : Bool := c == '0' || c == '1'

def base? : CodePoint → Option (Nat × (CodePoint → Bool))
  | .char 'x' | .char 'X' => some (16, isHex)
  | .char 'o' | .char 'O' => some (8, isOctal)
  | .char 'b' | .char 'B' => some (2, isBinary)
  | _ => none

def isSeparate (c : CodePoint) : Bool := !Digits.isGroupMark c

def based (kind : CodePoint → Bool) : Reach
  | .char '_' :: rest => grouped kind rest
  | text => grouped kind text

def extent : Reach
  | .char '0' :: mark :: rest =>
      match base? mark with
      | some (_, kind) => based kind rest
      | none => decimal ('0' :: mark :: rest)
  | text => decimal text

def digitValue (c : CodePoint) : Nat :=
  if isDigit c then c.toNat - 48 else if 'a' ≤ c then c.toNat - 87 else c.toNat - 55

def valueIn (base : Nat) (digits : Text) : Nat :=
  digits.foldl (fun n c => n * base + digitValue c) 0

def ofDigits? (digits : Text) : Option Number :=
  -- zero alone may have more digits than one, and any number of them
  if digits.all fun c : CodePoint => c == '0' then some (whole 0)
  else if digits.head? == some (.char '0') || Digits.limit < digits.length then none
  else some (whole (Digits.value digits))

def ofDecimal? (written : Text) : Option Number :=
  if written.getLast? == some (.char 'j') || written.getLast? == some (.char 'J') then
    some imaginary
  else if written.all isDigit then ofDigits? written
  else some fraction

def ofWritten? (written : Text) : Option Number :=
  match written with
  | .char '0' :: mark :: digits =>
      match base? mark with
      | some (base, _) => some (whole (valueIn base digits))
      | none => ofDecimal? written
  | _ => ofDecimal? written

def isOfNumber (c : CodePoint) : Bool :=
  isDigit c || ('a' ≤ c && c ≤ 'z') || ('A' ≤ c && c ≤ 'Z') || ("_.+-" : Text).contains c

def read? (text : Text) : Option (Number × Text) := do
  let front := text.takeWhile isOfNumber
  let written := front.take (front.length - (← extent front).length)
  return (← ofWritten? (written.filter isSeparate), text.drop written.length)

end Number
end ApiStubs.Literal
