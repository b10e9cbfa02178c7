/-! Text as a list of code points. Half of a surrogate pair alone is a code point but no
character, and an escape can name one; a text that holds such halves is torn, and no octets stand
for it. -/

namespace ApiStubs

inductive CodePoint
  | char (c : Char)
  | surrogate (offset : Fin 0x800)
  deriving DecidableEq

namespace CodePoint

instance : Coe Char CodePoint := ⟨char⟩

def firstSurrogate : Nat := 0xD800

def toNat : CodePoint → Nat
  | char c => c.toNat
  | surrogate offset => firstSurrogate + offset

def ofNat (n : Nat) : CodePoint :=
  if h : firstSurrogate ≤ n ∧ n - firstSurrogate < 0x800 then surrogate ⟨n - firstSurrogate, h.2⟩
  else char (Char.ofNat n)

def isSurrogate : CodePoint → Bool
  | char _ => false
  | surrogate _ => true

def mended : CodePoint → List Char
  | char c => [c]
  | surrogate _ => List.replicate 3 (Char.ofNat 0xFFFD)

instance : LT CodePoint := ⟨fun a b => a.toNat < b.toNat⟩
instance : LE CodePoint := ⟨fun a b => a.toNat ≤ b.toNat⟩
instance (a b : CodePoint) : Decidable (a < b) := inferInstanceAs (Decidable (a.toNat < b.toNat))
instance (a b : CodePoint) : Decidable (a ≤ b) := inferInstanceAs (Decidable (a.toNat ≤ b.toNat))

end CodePoint

abbrev Text : Type := List CodePoint

namespace Text

def ofString (s : String) : Text := s.toList.map CodePoint.char

instance : Coe String Text := ⟨ofString⟩

def isTorn (text : Text) : Bool := text.any CodePoint.isSurrogate

/-- The characters of a text. Half of a surrogate pair leaves three replacement characters, one
for each of the octets it would take. -/
def string (text : Text) : String := String.ofList (text.flatMap CodePoint.mended)

def mended (text : Text) : Text := ofString text.string

def join (separator : Text) (pieces : List Text) : Text := separator.intercalate pieces

end Text
end ApiStubs
