import ApiStubs.Text.Basic

/-! Patterns that are looked for in a text. Where a pattern can match in more than one way the
choices are tried in order, and the first that lets the rest of the pattern match is kept. -/

namespace ApiStubs

/-- How many characters a run takes: always all, or as many or as few as the rest allows. -/
inductive Greed
  | all
  | most
  | fewest

inductive Pattern
  | here (p : Option CodePoint → Option CodePoint → Bool)
  | run (greed : Greed) (least : Nat) (most : Option Nat) (p : CodePoint → Bool)
  | both (a b : Pattern)
  | either (a b : Pattern)
  | loop (least : Nat) (most : Option Nat) (p : Pattern)
  | mark (p : Pattern)

namespace Pattern

/-- A place in a text, and the extents that are marked in front of it, the last first. -/
structure Place where
  index : Nat
  before : Option CodePoint
  rest : Text
  marks : List (Nat × Nat)

namespace Place

def start (text : Text) : Place := ⟨0, none, text, []⟩

def next? (place : Place) : Option Place :=
  match place.rest with
  | c :: rest => some { place with index := place.index + 1, before := some c, rest }
  | [] => none

def markFrom (start : Nat) (place : Place) : Place :=
  { place with marks := (start, place.index) :: place.marks }

def runHere (p : CodePoint → Bool) (most : Option Nat) (place : Place) : Text :=
  match most with
  | some most => (place.rest.take most).takeWhile p
  | none => place.rest.takeWhile p

def skip (place : Place) (passed : Text) : Place :=
  { place with
    index := place.index + passed.length
    before := passed.getLast?.or place.before
    rest := place.rest.drop passed.length }

def along (place : Place) (passed : Text) : List Place :=
  passed.foldl (fun places c => match places with
    | last :: _ =>
        { last with index := last.index + 1, before := some c, rest := last.rest.tail } :: places
    | [] => []) [place]

end Place

/-- A way on from a place, given how to go on behind it. -/
abbrev Step := Place → (Place → Option Place) → Option Place

def runStep (greed : Greed) (least : Nat) (most : Option Nat) (p : CodePoint → Bool) : Step :=
  fun place go =>
    let passed := place.runHere p most
    if passed.length < least then none
    else
      let places := ((place.skip (passed.take least)).along (passed.drop least))
      match greed with
      | .all => go (place.skip passed)
      | .most => places.findSome? go
      | .fewest => places.reverse.findSome? go

def loopStep (step : Step) (least : Nat) : Nat → Step
  | 0, place, go => if least = 0 then go place else none
  | most + 1, place, go =>
      let again := step place fun next => loopStep step (least - 1) most next go
      if 0 < least then again else again <|> go place

/-- The place behind the first way in which the pattern and what follows it match. A repetition
takes at least one character. -/
def matchAt : Pattern → Step
  | here p, place, go => if p place.before place.rest.head? then go place else none
  | run greed least most p, place, go => runStep greed least most p place go
  | both a b, place, go => a.matchAt place fun next => b.matchAt next go
  | either a b, place, go => a.matchAt place go <|> b.matchAt place go
  | loop least most p, place, go =>
      loopStep (fun place go => p.matchAt place go) least (most.getD place.rest.length) place go
  | mark p, place, go => p.matchAt place fun next => go (next.markFrom place.index)

def findFrom (p : Pattern) (found : List (Nat × Nat)) : Nat → Place → List (Nat × Nat)
  | 0, _ => found.reverse
  | fuel + 1, place =>
      match p.matchAt place some with
      | some next => findFrom p (next.marks ++ found) fuel { next with marks := [] }
      | none =>
          match place.next? with
          | some next => findFrom p found fuel next
          | none => found.reverse

def find (p : Pattern) (text : Text) : List (Nat × Nat) :=
  findFrom p [] (text.length + 1) (.start text)

def one (p : CodePoint → Bool) : Pattern := run .all 1 (some 1) p

def char (c : CodePoint) : Pattern := one (· == c)

def optional (p : Pattern) : Pattern := loop 0 (some 1) p

def empty : Pattern := here fun _ _ => true

def inOrder (ps : List Pattern) : Pattern := ps.foldr both empty

def text (t : Text) : Pattern := inOrder (t.map char)

def anyOf (p : Pattern) (more : List Pattern) : Pattern := more.foldl either p

end Pattern
end ApiStubs
