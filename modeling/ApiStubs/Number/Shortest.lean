import ApiStubs.Number.Binary64

/-! The shortest decimal that reads back as a given number, and its layout: positional while the
leading digit stands between the fourth place after the point and the sixteenth before it. -/

namespace ApiStubs.Binary64

def leadingPlace (fraction : Nat × Nat) : Int :=
  let guess : Int := (digitCount fraction.1 : Int) - digitCount fraction.2
  let (n, d) := divideByPower 10 guess fraction
  if n < d then guess - 1 else guess

/-- Of the two neighbours of the fraction on the grid of `10 ^ place`, the one that reads back as
`value`. Of two such neighbours it is the nearer one, and of two equally near the even one. -/
def onGrid? (value : Binary64) (fraction : Nat × Nat) (place : Int) : Option Nat :=
  let (n, d) := divideByPower 10 place fraction
  let low := n / d
  let readsBack (digits : Nat) : Bool := ofDecimal false digits place == value
  match readsBack low, readsBack (low + 1) with
  | true, true => some (roundHalfEven n d)
  | true, false => some low
  | false, true => some (low + 1)
  | false, false => none

/-- Tries coarse grids first; the last of them, with seventeen digits, always has an answer. -/
def shortestFrom (value : Binary64) (fraction : Nat × Nat) : Nat → Int → Nat × Int
  | 0, place => (fraction.1 / fraction.2, place)
  | tries + 1, place =>
      match onGrid? value fraction place with
      | some digits => (digits, place)
      | none => shortestFrom value fraction tries (place - 1)

def shortest (mantissa : Nat) (exponent : Int) : Nat × Int :=
  let fraction := divideByPower 2 (-exponent) (mantissa, 1)
  shortestFrom (.finite false mantissa exponent) fraction 17 (leadingPlace fraction)

def dropTrailingZeros (digits : List Char) : List Char :=
  (digits.reverse.dropWhile (· == '0')).reverse

def zeros (count : Nat) : List Char := List.replicate count '0'

def exponentText (exponent : Int) : List Char :=
  let digits := Nat.toDigits 10 exponent.natAbs
  (if exponent < 0 then '-' else '+') :: zeros (2 - digits.length) ++ digits

def layOut (digits : List Char) (leading : Int) : List Char :=
  if -4 ≤ leading ∧ leading < 16 then
    if leading < 0 then '0' :: '.' :: zeros (-leading - 1).toNat ++ digits
    else
      let whole := leading.toNat + 1
      let after := digits.drop whole
      digits.take whole ++ zeros (whole - digits.length) ++
        '.' :: (if after.isEmpty then ['0'] else after)
  else
    let after := digits.drop 1
    digits.take 1 ++ (if after.isEmpty then [] else '.' :: after) ++ 'e' :: exponentText leading

def magnitudeText (mantissa : Nat) (exponent : Int) : List Char :=
  if mantissa = 0 then ['0', '.', '0']
  else
    let (n, place) := shortest mantissa exponent
    let digits := Nat.toDigits 10 n
    layOut (dropTrailingZeros digits) (place + digits.length - 1)

def text : Binary64 → String
  | .nan => "nan"
  | .infinity negative => if negative then "-inf" else "inf"
  | .finite negative mantissa exponent =>
      String.ofList ((if negative then ['-'] else []) ++ magnitudeText mantissa exponent)

end ApiStubs.Binary64
