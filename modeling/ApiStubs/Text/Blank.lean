import ApiStubs.Text.Basic
import ApiStubs.Text.Ranges

/-! Blank characters and what is cut at them: trimming, splitting, words. -/

namespace ApiStubs.Text

/-- White space together with the four information separators. -/
def blankRanges : List (Nat × Nat) :=
  [(0x09, 0x0D), (0x1C, 0x20), (0x85, 0x85), (0xA0, 0xA0), (0x1680, 0x1680), (0x2000, 0x200A),
   (0x2028, 0x2029), (0x202F, 0x202F), (0x205F, 0x205F), (0x3000, 0x3000)]

def isBlank (c : CodePoint) : Bool := Ranges.contains blankRanges c.toNat

/-- The Unicode property White_Space, which the information separators lack. -/
def isWhiteSpace (c : CodePoint) : Bool := isBlank c && !(0x1C ≤ c.toNat && c.toNat ≤ 0x1F)

def trimBy (p : CodePoint → Bool) (text : Text) : Text :=
  ((text.dropWhile p).reverse.dropWhile p).reverse

def trim (text : Text) : Text := trimBy isBlank text

theorem length_trimBy_le (p : CodePoint → Bool) (text : Text) :
    (trimBy p text).length ≤ text.length := by
  have h1 := (List.dropWhile_suffix p (l := text)).length_le
  have h2 := (List.dropWhile_suffix p (l := (text.dropWhile p).reverse)).length_le
  simp only [trimBy, List.length_reverse] at h2 ⊢
  omega

theorem length_trim_le (text : Text) : (trim text).length ≤ text.length :=
  length_trimBy_le isBlank text

def splitWhen (p : CodePoint → Bool) : Text → List Text
  | [] => [[]]
  | c :: rest =>
      if p c then [] :: splitWhen p rest
      else match splitWhen p rest with
        | [] => [[c]]
        | piece :: more => (c :: piece) :: more

def words (text : Text) : List Text := (splitWhen isBlank text).filter fun word => !word.isEmpty

def cutAtLast? (c : CodePoint) (text : Text) : Option (Text × Text) :=
  match text.reverse.span (· != c) with
  | (_, []) => none
  | (after, _ :: before) => some (before.reverse, after.reverse)

def isBlankText (text : Text) : Bool := (trim text).isEmpty

end ApiStubs.Text
