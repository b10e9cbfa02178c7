import ApiStubs.Console.Emoji.Names
import ApiStubs.Text.Blank
import ApiStubs.Text.Lower

/-! Emoji by name: a name between two colons stands for its emoji. It may end with a skin tone, and
with a mark that chooses how the emoji is drawn. -/

namespace ApiStubs.Emoji

def findIn (name : Text) : List Text → Option Text
  | known :: emoji :: rest => if known = name then some emoji else findIn name rest
  | _ => none

def plain? (name : Text) : Option Text :=
  named.findSome? fun line : String => findIn name (Text.words line)

def isHanded (name : Text) : Bool :=
  handed.any fun line : String => (Text.words line).contains name

def tones : List (Text × CodePoint) :=
  [("_light_skin_tone", .ofNat 0x1F3FB), ("_medium-light_skin_tone", .ofNat 0x1F3FC),
   ("_medium_skin_tone", .ofNat 0x1F3FD), ("_medium-dark_skin_tone", .ofNat 0x1F3FE),
   ("_dark_skin_tone", .ofNat 0x1F3FF)]

def before? (ending text : Text) : Option Text :=
  if ending.isSuffixOf text then some (text.take (text.length - ending.length)) else none

def selector : CodePoint := .ofNat 0xFE0F

def withTone (tone : CodePoint) : Text → Text
  | [] => []
  | c :: rest => c :: tone :: (if rest.head? = some selector then rest.tail else rest)

def toned? (name : Text) : Option Text :=
  tones.findSome? fun (ending, tone) => do
    let base ← before? ending name
    if isHanded base then (plain? base).map (withTone tone) else none

def find? (name : Text) : Option Text := plain? name <|> toned? name

def cutMark (body : Text) : Text × Text :=
  match before? "-emoji" body, before? "-text" body with
  | some name, _ => (name, [selector])
  | none, some name => (name, [.ofNat 0xFE0E])
  | none, none => (body, [])

def shown (body : Text) : Text :=
  let (name, mark) := cutMark body
  match find? (Text.lower name) with
  | some emoji => emoji ++ mark
  | none => ":" ++ body ++ ":"

def isOfName (c : CodePoint) : Bool := c != ':' && !Text.isBlank c

/-- Colons pair up from the left, and no blank lies between two of a pair. -/
def replace (text : Text) : Text :=
  match text with
  | [] => []
  | c :: rest =>
      if c = ':' then
        match _h : rest.dropWhile isOfName with
        | .char ':' :: after => shown (rest.takeWhile isOfName) ++ replace after
        | _ => c :: replace rest
      else c :: replace rest
termination_by text.length
decreasing_by
  · have := (List.dropWhile_suffix isOfName (l := rest)).length_le
    rw [_h] at this
    simp only [List.length_cons] at this ⊢
    omega
  · simp
  · simp

end ApiStubs.Emoji
