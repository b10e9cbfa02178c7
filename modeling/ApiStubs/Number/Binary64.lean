/-! Double precision numbers as exact values, and the nearest one to a decimal, where a half goes to
the even neighbour. -/

namespace ApiStubs

/-- A finite number is `mantissa * 2 ^ exponent`. The mantissa is below `2 ^ 53`, and at least
`2 ^ 52` unless the exponent is the least one, -1074. -/
inductive Binary64
  | nan
  | infinity (negative : Bool)
  | finite (negative : Bool) (mantissa : Nat) (exponent : Int)
  deriving DecidableEq

namespace Binary64

def leastExponent : Int := -1074
def greatestExponent : Int := 971

def zero (negative : Bool) : Binary64 := .finite negative 0 leastExponent

def divideByPower (base : Nat) (exponent : Int) (fraction : Nat × Nat) : Nat × Nat :=
  if 0 ≤ exponent then (fraction.1, fraction.2 * Nat.pow base exponent.toNat)
  else (fraction.1 * Nat.pow base (-exponent).toNat, fraction.2)

def roundHalfEven (numerator denominator : Nat) : Nat :=
  let quotient := numerator / denominator
  let twice := 2 * (numerator % denominator)
  if twice < denominator then quotient
  else if denominator < twice then quotient + 1
  else quotient + quotient % 2

def lastPlace (fraction : Nat × Nat) : Int :=
  let guess : Int := (fraction.1.log2 : Int) - fraction.2.log2 - 52
  let (n, d) := divideByPower 2 guess fraction
  max leastExponent (if n < d * Nat.pow 2 52 then guess - 1 else guess)

def ofFraction (negative : Bool) (fraction : Nat × Nat) : Binary64 :=
  if fraction.1 = 0 then zero negative
  else
    let place := lastPlace fraction
    let (n, d) := divideByPower 2 place fraction
    let mantissa := roundHalfEven n d
    let (mantissa, place) :=
      if mantissa < Nat.pow 2 53 then (mantissa, place) else (mantissa / 2, place + 1)
    if greatestExponent < place then .infinity negative else .finite negative mantissa place

def digitCount (n : Nat) : Nat := (Nat.toDigits 10 n).length

/-- The number nearest to `digits * 10 ^ exponent`. A decimal far outside the range needs no
arithmetic. -/
def ofDecimal (negative : Bool) (digits : Nat) (exponent : Int) : Binary64 :=
  let size := digitCount digits + exponent
  if digits = 0 then zero negative
  else if 310 < size then .infinity negative
  else if size < -330 then zero negative
  else ofFraction negative (divideByPower 10 (-exponent) (digits, 1))

def isZero : Binary64 → Bool
  | .finite _ 0 _ => true
  | _ => false

def toInt? : Binary64 → Option Int
  | .finite negative mantissa exponent =>
      let (n, d) := divideByPower 2 (-exponent) (mantissa, 1)
      if n % d = 0 then some (if negative then -((n / d : Nat) : Int) else (n / d : Nat)) else none
  | _ => none

end Binary64
end ApiStubs
