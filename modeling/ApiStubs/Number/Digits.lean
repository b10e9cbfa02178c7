import ApiStubs.Text.Basic

/-! Decimal digits of whole numbers. -/

namespace ApiStubs.Digits

def isDigit (c : CodePoint) : Bool := '0' ≤ c && c ≤ '9'

def isGroupMark (c : CodePoint) : Bool := c == '_'

def value (digits : Text) : Nat := digits.foldl (fun n c => n * 10 + (c.toNat - 48)) 0

/-- Whole numbers with more digits are not read. -/
def limit : Nat := 4300

end ApiStubs.Digits
