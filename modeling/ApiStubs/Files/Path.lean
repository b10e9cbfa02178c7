import ApiStubs.Text.Blank

/-! File paths in normal form: empty and dot segments are gone, parent segments stay. -/

namespace ApiStubs

/-- A path starts with no slash, with one, or with exactly two, which stay apart. -/
structure Path where
  slashes : Nat
  segments : List Text
  deriving DecidableEq

namespace Path

def keptSlashes (count : Nat) : Nat := if count ≤ 2 then count else 1

def isSlash (c : CodePoint) : Bool := c == '/'

def ofText (text : Text) : Path where
  slashes := keptSlashes (text.takeWhile isSlash).length
  segments := (Text.splitWhen isSlash text).filter fun segment => segment != "" && segment != "."

def render (p : Path) : Text :=
  if p.slashes = 0 ∧ p.segments = [] then "."
  else List.replicate p.slashes (.char '/') ++ Text.join "/" p.segments

def append (p q : Path) : Path :=
  if q.slashes = 0 then ⟨p.slashes, p.segments ++ q.segments⟩ else q

instance : Append Path := ⟨append⟩

def parent (p : Path) : Path := { p with segments := p.segments.dropLast }

/-- The last dot of a name starts its extension, unless it is its first or its last character. -/
def cutExtension (name : Text) : Text :=
  match Text.cutAtLast? '.' name with
  | some (stem, extension) => if stem.isEmpty || extension.isEmpty then name else stem
  | none => name

def stem (p : Path) : Text := (p.segments.getLast?.map cutExtension).getD []

def withExtension? (extension : Text) (p : Path) : Option Path :=
  p.segments.getLast?.map fun name =>
    { p with segments := p.segments.dropLast ++ [cutExtension name ++ extension] }

end Path
end ApiStubs
