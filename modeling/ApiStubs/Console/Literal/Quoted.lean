import ApiStubs.Console.Literal.Number
import ApiStubs.Text.CharacterName

/-! Quoted texts in literals: between single marks on one line or between triple marks on any
number of lines, with letters in front that say how escapes are read. -/

namespace ApiStubs.Literal

/-- Letters in front of the opening mark make octets of a text, or take its escapes for plain
text. -/
structure Quoting where
  octets : Bool
  raw : Bool

namespace Quoting

def named : List (Text × Quoting) :=
  [([], ⟨false, false⟩), ("u", ⟨false, false⟩), ("r", ⟨false, true⟩), ("b", ⟨true, false⟩),
   ("br", ⟨true, true⟩), ("rb", ⟨true, true⟩)]

def lowerLetter (c : CodePoint) : CodePoint :=
  if 'A' ≤ c ∧ c ≤ 'Z' then .ofNat (c.toNat + 32) else c

def ofLetters? (letters : Text) : Option Quoting := named.lookup (letters.map lowerLetter)

def areHex (count : Nat) (text : Text) : Bool :=
  let digits := text.take count
  digits.length == count && digits.all Number.isHex

def lastCodePoint : Nat := 0x10FFFF

def isNameEnd (c : CodePoint) : Bool := c == '\x7d'

def namesCharacter (text : Text) : Bool :=
  match text with
  | .char '\x7b' :: rest =>
      let name := rest.takeWhile fun c : CodePoint => !isNameEnd c
      name.length < rest.length && Text.isCharacterName name
  | _ => false

def acceptsEscape (octets : Bool) (c : CodePoint) (rest : Text) : Bool :=
  if c = 'x' then areHex 2 rest
  else if octets then true
  else if c = 'u' then areHex 4 rest
  else if c = 'U' then
    areHex 8 rest && decide (Number.valueIn 16 (rest.take 8) ≤ lastCodePoint)
  else if c = 'N' then namesCharacter rest
  else true

def acceptsEscapes (octets : Bool) : Text → Bool
  | .char '\\' :: c :: rest =>
      acceptsEscape octets c rest && acceptsEscapes octets rest
  | _ :: rest => acceptsEscapes octets rest
  | [] => true

def isAscii (c : CodePoint) : Bool := c.toNat < 0x80

def accepts (q : Quoting) (body : Text) : Bool :=
  (!q.octets || body.all isAscii) && (q.raw || acceptsEscapes q.octets body)

def singleBody? (mark : CodePoint) : Text → Option (Text × Text)
  | .char '\\' :: c :: rest =>
      (singleBody? mark rest).map fun (body, after) => ('\\' :: c :: body, after)
  | c :: rest =>
      if c = mark then some ([], rest)
      else if c = '\n' then none
      else (singleBody? mark rest).map fun (body, after) => (c :: body, after)
  | [] => none

def tripleBody? (mark : CodePoint) : Text → Option (Text × Text)
  | .char '\\' :: c :: rest =>
      (tripleBody? mark rest).map fun (body, after) => ('\\' :: c :: body, after)
  | c :: rest =>
      if [c] ++ rest.take 2 = List.replicate 3 mark then some ([], rest.drop 2)
      else (tripleBody? mark rest).map fun (body, after) => (c :: body, after)
  | [] => none

def isMark (c : CodePoint) : Bool := c == '\'' || c == '"'

def body? (text : Text) : Option (Text × Text) :=
  match text with
  | mark :: rest =>
      if !isMark mark then none
      else if rest.take 2 = List.replicate 2 mark then tripleBody? mark (rest.drop 2)
      else singleBody? mark rest
  | [] => none

def read? (letters text : Text) : Option (Bool × Text) := do
  let q ← ofLetters? letters
  let (body, rest) ← body? text
  if q.accepts body then some (q.octets, rest) else none

end Quoting
end ApiStubs.Literal
