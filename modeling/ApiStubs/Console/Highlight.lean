import ApiStubs.Console.Styled
import ApiStubs.Number.Digits
import ApiStubs.Text.Digit
import ApiStubs.Text.Pattern
import ApiStubs.Text.Word

/-! What stands out in printed lines: tags, attributes, brackets, addresses, calls, constants,
numbers, paths, quoted texts and links. Only where such a part starts and stops is kept. -/

namespace ApiStubs.Highlight

open Digits (isDigit)
open Pattern

def isHex (c : CodePoint) : Bool :=
  isDigit c || ('a' ≤ c && c ≤ 'f') || ('A' ≤ c && c ≤ 'F')

def isLetterOrDigit (c : CodePoint) : Bool :=
  isDigit c || ('a' ≤ c && c ≤ 'z') || ('A' ≤ c && c ≤ 'Z')

def isOneOf (marks : Text) (c : CodePoint) : Bool := marks.contains c

def isWordOr (marks : Text) (c : CodePoint) : Bool := Text.isWord c || marks.contains c

def isAny (_ : CodePoint) : Bool := true

def isInLine (c : CodePoint) : Bool := c != '\n'

def exactly (count : Nat) (p : CodePoint → Bool) : Pattern := run .all count (some count) p

def upTo (most : Nat) (p : CodePoint → Bool) : Pattern := run .most 1 (some most) p

def many (p : CodePoint → Bool) : Pattern := run .most 0 none p

def many1 (p : CodePoint → Bool) : Pattern := run .most 1 none p

def isWordAt (c : Option CodePoint) : Bool := (c.map Text.isWord).getD false

def edge : Pattern := here fun before after => isWordAt before != isWordAt after

def noEdge : Pattern := here fun before after => isWordAt before == isWordAt after

def notBehind (p : CodePoint → Bool) : Pattern :=
  here fun before _ => !(before.map p).getD false

def tag : Pattern := inOrder
  [mark (char '<'), mark (many (isWordOr "-.:|")), mark (many isAny), mark (char '>')]

def assignment : Pattern := inOrder
  [mark (upTo 50 Text.isWord), char '=',
   optional (mark (inOrder
     [optional (char '"'), many1 Text.isWord, optional (char '"')]))]

def bracket : Pattern := mark (one (isOneOf "[]\x7b\x7d()"))

def groups (count : Nat) (separator : CodePoint) (group : Pattern) : Pattern :=
  both (loop (count - 1) (some (count - 1)) (both group (char separator))) group

def addressOf4 : Pattern := groups 4 '.' (upTo 3 isDigit)

def addressOf6 : Pattern :=
  both (loop 1 (some 7) (inOrder [upTo 4 isHex, char ':', optional (char ':')])) (upTo 4 isHex)

def deviceAddress (pairs : Nat) : Pattern :=
  anyOf (groups pairs '-' (upTo 2 isHex))
    [groups pairs ':' (upTo 2 isHex), groups (pairs / 2) '.' (exactly 4 isHex)]

def identifier : Pattern := inOrder
  [exactly 8 isHex, char '-', groups 3 '-' (exactly 4 isHex), char '-', exactly 12 isHex]

def call : Pattern := both (mark (run .all 0 none (isWordOr "."))) (char '(')

def constant (name : Text) : Pattern := inOrder [edge, mark (Pattern.text name), edge]

def sign : Pattern := one (isOneOf "+-")

def optionalDot : Pattern := optional (char '.')

def mantissa : Pattern := inOrder [many1 isDigit, optionalDot, many isDigit]

def exponent (greed : Greed) : Pattern :=
  inOrder [char 'e', optional sign, run greed 1 none Text.isDecimalDigit]

def imaginary : Pattern := mark (inOrder
  [notBehind Text.isWord, optional (char '-'), mantissa, optional (exponent .fewest),
   optional (inOrder [sign, mantissa, optional (exponent .most)]), char 'j'])

def number : Pattern := mark (either
  (inOrder [notBehind Text.isWord, optional (char '-'), mantissa,
    optional (exponent .fewest), edge])
  (both (Pattern.text "0x") (many isHex)))

def isOfFileName : CodePoint → Bool := isWordOr "-._+"

def path : Pattern := both
  (mark (inOrder [noEdge, loop 0 none (both (char '/') (many1 isOfFileName)), char '/']))
  (optional (mark (many isOfFileName)))

def isBackslash (c : CodePoint) : Bool := c == '\\'

def quotedBy (marks : Text) : Pattern := inOrder
  [optional (char 'b'), Pattern.text marks, run .fewest 0 none isInLine, notBehind isBackslash,
   Pattern.text marks]

def quoted : Pattern := both (notBehind fun c => isBackslash c || Text.isWord c)
  (mark (anyOf (quotedBy "'''") [quotedBy "'", quotedBy "\"\"\"", quotedBy "\""]))

def isOfLink (c : CodePoint) : Bool := isLetterOrDigit c || isOneOf "-$_+!`(),.?/;:&=%#~@" c

def scheme : Pattern := anyOf (Pattern.text "file")
  [Pattern.text "https", Pattern.text "http", Pattern.text "ws", Pattern.text "wss"]

def link : Pattern := mark (inOrder [scheme, Pattern.text "://", many isOfLink])

def value : Pattern := anyOf (mark addressOf4)
  [mark addressOf6, mark (deviceAddress 8), mark (deviceAddress 6), mark identifier, call,
   constant "True", constant "False", constant "None", mark (Pattern.text "..."), imaginary, number,
   path, quoted, link]

def parts (text : Text) : List (Nat × Nat) :=
  [tag, assignment, bracket, value].flatMap fun pattern => pattern.find text

def add (s : Styled) : Styled :=
  let found : List Span := (parts s.text).filterMap fun (start, stop) =>
    if start < stop then some ⟨start, stop, none⟩ else none
  { s with spans := found ++ s.spans }

end ApiStubs.Highlight
