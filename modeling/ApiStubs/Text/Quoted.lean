import ApiStubs.Text.Printable

/-! Quoted text for messages: the quote that needs less escaping, names for the common controls and
hexadecimal escapes for all else that does not print. -/

namespace ApiStubs.Text

def hexDigit (n : Nat) : CodePoint := .ofNat (if n < 10 then 48 + n else 87 + n)

def hexDigits : Nat → Nat → Text
  | 0, _ => []
  | width + 1, n => hexDigits width (n / 16) ++ [hexDigit (n % 16)]

def numericEscape (n : Nat) : Text :=
  if n < 0x100 then '\\' :: 'x' :: hexDigits 2 n
  else if n < 0x10000 then '\\' :: 'u' :: hexDigits 4 n
  else '\\' :: 'U' :: hexDigits 8 n

def quoteMark (text : Text) : CodePoint :=
  if .char '\'' ∈ text ∧ .char '"' ∉ text then '"' else '\''

def escape (mark c : CodePoint) : Text :=
  if c = mark ∨ c = '\\' then ['\\', c]
  else if c = '\n' then "\\n"
  else if c = '\r' then "\\r"
  else if c = '\t' then "\\t"
  else if isPrintable c then [c]
  else numericEscape c.toNat

def quoted (text : Text) : Text :=
  let mark := quoteMark text
  mark :: text.flatMap (escape mark) ++ [mark]

end ApiStubs.Text
