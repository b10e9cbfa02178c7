import ApiStubs.Console.Literal.Quoted
import ApiStubs.Text.Lines

/-! The tokens of a literal. Blanks and comments between them are left out, and a backslash joins
a line with the next one. -/

namespace ApiStubs.Literal

inductive Bracket
  | round
  | square
  | curly
  deriving DecidableEq

inductive Part
  | number (n : Number)
  | signed (n : Number)
  | quoted (octets : Bool)
  | fixed
  /-- A value whose members may change, which is neither a key nor a member of a set. -/
  | changeable
  | unit
  /-- The name of the empty set, which a unit calls. -/
  | setName
  | sign
  | comma
  | colon
  | lineEnd

inductive Token
  | part (p : Part)
  | opening (b : Bracket)
  | closing (b : Bracket)

namespace Token

def isAsciiLetter (c : CodePoint) : Bool :=
  ('a' ≤ c && c ≤ 'z') || ('A' ≤ c && c ≤ 'Z')

def isOfName (c : CodePoint) : Bool :=
  isAsciiLetter c || Digits.isDigit c || c == '_' || 0x80 ≤ c.toNat

/-- The letters that are compatible with an `s`; those below, with an `e` and with a `t`. -/
def lettersS : List Nat :=
  [0x73, 0x17F, 0x2E2, 0x209B, 0xFF53, 0x1D42C, 0x1D460, 0x1D494, 0x1D4C8, 0x1D4FC, 0x1D530,
   0x1D564, 0x1D598, 0x1D5CC, 0x1D600, 0x1D634, 0x1D668, 0x1D69C]

def lettersE : List Nat :=
  [0x65, 0x1D49, 0x2091, 0x212F, 0x2147, 0xFF45, 0x1D41E, 0x1D452, 0x1D486, 0x1D4EE, 0x1D522,
   0x1D556, 0x1D58A, 0x1D5BE, 0x1D5F2, 0x1D626, 0x1D65A, 0x1D68E]

def lettersT : List Nat :=
  [0x74, 0x1D57, 0x209C, 0xFF54, 0x1D42D, 0x1D461, 0x1D495, 0x1D4C9, 0x1D4FD, 0x1D531, 0x1D565,
   0x1D599, 0x1D5CD, 0x1D601, 0x1D635, 0x1D669, 0x1D69D]

def isSetName (name : Text) : Bool :=
  match name with
  | [s, e, t] =>
      lettersS.contains s.toNat && lettersE.contains e.toNat && lettersT.contains t.toNat
  | _ => false

def constants : List Text := ["None", "True", "False"]

def ofName? (name : Text) : Option Token :=
  if constants.contains name then some (part .fixed)
  else if isSetName name then some (part .setName)
  else none

def ofMark? : CodePoint → Option Token
  | .char '(' => some (opening .round)
  | .char ')' => some (closing .round)
  | .char '[' => some (opening .square)
  | .char ']' => some (closing .square)
  | .char '\x7b' => some (opening .curly)
  | .char '\x7d' => some (closing .curly)
  | .char '+' | .char '-' => some (part .sign)
  | .char ',' => some (part .comma)
  | .char ':' => some (part .colon)
  | .char '\n' => some (part .lineEnd)
  | _ => none

def endsNumber (rest : Text) : Bool := !(rest.head?.map isOfName).getD false

def number? (text : Text) : Option (Token × Text) := do
  let (n, rest) ← Number.read? text
  if endsNumber rest then some (part (.number n), rest) else none

def named? (text : Text) : Option (Token × Text) :=
  let name := text.takeWhile isOfName
  let rest := text.drop name.length
  if (rest.head?.map Quoting.isMark).getD false then
    (Quoting.read? name rest).map fun (octets, rest) => (part (.quoted octets), rest)
  else (ofName? name).map fun token => (token, rest)

def read? (text : Text) : Option (Token × Text) :=
  match text with
  | .char '.' :: .char '.' :: .char '.' :: rest => some (part .fixed, rest)
  | c :: rest =>
      if c == '.' || Digits.isDigit c then number? text
      else if isOfName c || Quoting.isMark c then named? text
      else (ofMark? c).map fun token => (token, rest)
  | [] => none

def isGap (c : CodePoint) : Bool := c == ' ' || c == '\t' || c == '\x0c'

def isNewline (c : CodePoint) : Bool := c == '\n'

def dropComment (text : Text) : Text := text.dropWhile fun c : CodePoint => !isNewline c

/-- A backslash joins two lines, of which the second is not beyond the end. -/
def joined? : Text → Option Text
  | .char '\n' :: c :: rest => some (c :: rest)
  | _ => none

def listUpTo : Nat → Text → Option (List Token)
  | 0, text => if text.isEmpty then some [] else none
  | fuel + 1, text =>
      match text with
      | [] => some []
      | c :: rest =>
          if isGap c then listUpTo fuel rest
          else if c = '#' then listUpTo fuel (dropComment rest)
          else if c = '\\' then (joined? rest).bind (listUpTo fuel)
          else do
            let (token, rest) ← read? text
            return token :: (← listUpTo fuel rest)

/-- The columns in front of what a line holds. A tab leads to the next column that eight divides,
and a form feed back to the first. Of joined lines, the first that starts behind that column
counts. -/
def indent (column joinedAt : Nat) : Text → Option (Nat × Text)
  | .char ' ' :: rest => indent (column + 1) joinedAt rest
  | .char '\t' :: rest => indent ((column / 8 + 1) * 8) joinedAt rest
  | .char '\x0c' :: rest => indent 0 joinedAt rest
  | .char '\\' :: .char '\n' :: c :: rest =>
      indent column (if joinedAt = 0 then column else joinedAt) (c :: rest)
  | .char '\\' :: _ => none
  | text => some (if joinedAt = 0 then column else joinedAt, text)

def listFrom : Nat → Text → Option (List Token)
  | 0, _ => none
  | fuel + 1, text =>
      match indent 0 0 text with
      | none => none
      | some (_, .char '#' :: rest) => listFrom fuel (dropComment rest).tail
      | some (_, .char '\n' :: rest) => listFrom fuel rest
      | some (0, text) => listUpTo text.length text
      | some _ => none

def isTooPlain (c : CodePoint) : Bool := c.isSurrogate || c.toNat == 0

def list? (text : Text) : Option (List Token) :=
  if text.any isTooPlain then none
  else
    let text := Text.unifyNewlines text
    let text := text.dropWhile fun c : CodePoint => c == ' ' || c == '\t'
    listFrom (text.length + 1) text

end Token
end ApiStubs.Literal
