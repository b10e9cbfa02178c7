import ApiStubs.Text.Basic
import ApiStubs.Text.CharacterName.A
import ApiStubs.Text.CharacterName.B
import ApiStubs.Text.CharacterName.CToD
import ApiStubs.Text.CharacterName.EToJ
import ApiStubs.Text.CharacterName.KToL
import ApiStubs.Text.CharacterName.MToO
import ApiStubs.Text.CharacterName.PToS
import ApiStubs.Text.CharacterName.TToZ
import ApiStubs.Text.Ranges

/-! Names of characters. Most are listed; syllables of Hangul are named after their letters, and
ideographs by their numbers. Listed names may be in any letter case. -/

namespace ApiStubs.Text.CharacterName

def listed : List (List String) :=
  [namesA, namesB, namesCToD, namesEToJ, namesKToL, namesMToO, namesPToS, namesTToZ]

/-- A way through a list of names: what is left of a name inside the innermost bracket, what is
left of it behind the item that is read, as long as the item agrees, and how many brackets are
passed over. -/
structure Search where
  inside : Text
  left : Option Text
  passed : Nat

namespace Search

def start (name : Text) : Search := ⟨name, some name, 0⟩

def isAtEnd (s : Search) : Bool := s.left == some []

def agreeing? (c : CodePoint) : Text → Option Text
  | d :: rest => if c = d then some rest else none
  | [] => none

/-- No two items beside each other begin alike, so a bracket that agrees decides. -/
def finds (s : Search) : Text → Bool
  | [] => s.isAtEnd
  | c :: list =>
      if 0 < s.passed then
        if c = '(' then finds { s with passed := s.passed + 1 } list
        else if c = ')' then finds { s with passed := s.passed - 1 } list
        else finds s list
      else if c = ',' then s.isAtEnd || finds { s with left := some s.inside } list
      else if c = '(' then
        match s.left with
        | some rest => finds (start rest) list
        | none => finds { s with passed := 1 } list
      else if c = ')' then s.isAtEnd
      else finds { s with left := s.left.bind (agreeing? c) } list

end Search

def upperLetter (c : CodePoint) : CodePoint :=
  if 'a' ≤ c ∧ c ≤ 'z' then .ofNat (c.toNat - 32) else c

def isListed (name : Text) : Bool :=
  listed.any fun lines : List String =>
    (Search.start name).finds (lines.flatMap fun line : String => Text.ofString line)

def leads : List Text :=
  ["G", "GG", "N", "D", "DD", "R", "M", "B", "BB", "S", "SS", "", "J", "JJ", "C", "K", "T", "P",
   "H"]

def vowels : List Text :=
  ["A", "AE", "YA", "YAE", "EO", "E", "YEO", "YE", "O", "WA", "WAE", "OE", "YO", "U", "WEO", "WE",
   "WI", "YU", "EU", "YI", "I"]

def tails : List Text :=
  ["", "G", "GG", "GS", "N", "NJ", "NH", "D", "L", "LG", "LM", "LB", "LS", "LT", "LP", "LH", "M",
   "B", "BS", "S", "SS", "NG", "J", "C", "K", "T", "P", "H"]

def longer (a b : Text) : Text := if a.length < b.length then b else a

def dropLetter? (letters : List Text) (text : Text) : Option Text :=
  match letters.filter fun letter : Text => letter.isPrefixOf text with
  | [] => none
  | letter :: more => some (text.drop (more.foldl longer letter).length)

def isSyllable (text : Text) : Bool :=
  ((dropLetter? leads text).bind (dropLetter? vowels)).bind (dropLetter? tails) == some []

def isUpperHex (c : CodePoint) : Bool := ('0' ≤ c && c ≤ '9') || ('A' ≤ c && c ≤ 'F')

def hexDigitValue (c : CodePoint) : Nat := if c ≤ '9' then c.toNat - 48 else c.toNat - 55

def hexValue (digits : Text) : Nat := digits.foldl (fun n c => n * 16 + hexDigitValue c) 0

def number? (digits : Text) : Option Nat :=
  if (digits.length == 4 || digits.length == 5) && digits.all isUpperHex then some (hexValue digits)
  else none

def unifiedRanges : List (Nat × Nat) :=
  [(0x3400, 0x4DBF), (0x4E00, 0x9FFF), (0x20000, 0x2A6DF), (0x2A700, 0x2B738), (0x2B740, 0x2B81D),
   (0x2B820, 0x2CEA1), (0x2CEB0, 0x2EBE0), (0x30000, 0x3134A)]

def isUnified (digits : Text) : Bool := (number? digits).any (Ranges.contains unifiedRanges)

def numbered : List (Text × List (Nat × Nat)) :=
  [("CJK COMPATIBILITY IDEOGRAPH-", [(0xF900, 0xFA6D), (0xFA70, 0xFAD9), (0x2F800, 0x2FA1D)]),
   ("KHITAN SMALL SCRIPT CHARACTER-", [(0x18B00, 0x18CD5)]),
   ("NUSHU CHARACTER-", [(0x1B170, 0x1B2FB)])]

/-- A number has no idle zero in front. -/
def isNumbered (name : Text) : Bool :=
  numbered.any fun ((front, ranges) : Text × List (Nat × Nat)) =>
    let digits := name.drop front.length
    front.isPrefixOf name && (number? digits).any fun n =>
      Ranges.contains ranges n && (digits.length == 4 || 0x10000 ≤ n)

def syllableFront : Text := "HANGUL SYLLABLE "

def unifiedFront : Text := "CJK UNIFIED IDEOGRAPH-"

end CharacterName

open CharacterName

/-- Whether some character has the name. Syllables and unified ideographs are named in capitals
only. -/
def isCharacterName (name : Text) : Bool :=
  if syllableFront.isPrefixOf name then isSyllable (name.drop syllableFront.length)
  else if unifiedFront.isPrefixOf name then isUnified (name.drop unifiedFront.length)
  else
    let name := name.map upperLetter
    isNumbered name || isListed name

end ApiStubs.Text
