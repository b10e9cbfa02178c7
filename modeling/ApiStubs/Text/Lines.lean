import ApiStubs.Text.Blank

/-! Line ends: carriage returns become line feeds when a file is read, and a list of names is then
cut at every line boundary. -/

namespace ApiStubs.Text

def unifyNewlines : Text → Text
  | [] => []
  | .char '\r' :: .char '\n' :: rest => '\n' :: unifyNewlines rest
  | c :: rest => (if c = '\r' then '\n' else c) :: unifyNewlines rest

def isLineBoundary (c : CodePoint) : Bool :=
  let n := c.toNat
  (0x0A ≤ n && n ≤ 0x0C) || (0x1C ≤ n && n ≤ 0x1E) || n == 0x85 || n == 0x2028 || n == 0x2029

def lines (text : Text) : List Text := splitWhen isLineBoundary text

end ApiStubs.Text
