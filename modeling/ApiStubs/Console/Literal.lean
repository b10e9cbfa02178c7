import ApiStubs.Console.Literal.Token

/-! Literals: numbers, quoted texts, the named constants, and tuples, lists, sets and dictionaries
of literals. Only whether a text is one is asked. -/

namespace ApiStubs.Literal

namespace Part

def isComma : Part → Bool
  | comma => true
  | _ => false

def isColon : Part → Bool
  | colon => true
  | _ => false

def isLineEnd : Part → Bool
  | lineEnd => true
  | _ => false

def isKey : Part → Bool
  | number _ | signed _ | quoted _ | fixed => true
  | _ => false

def isValue : Part → Bool
  | changeable => true
  | p => p.isKey

def isText (octets : Bool) : Part → Bool
  | quoted o => o == octets
  | _ => false

def sum? (n : Number) : Number → Option Part
  | .imaginary => if n.isAddend then some fixed else none
  | _ => none

/-- Quoted texts side by side are one text, if all of them are octets or none is. -/
def texts? : List Part → Option Part
  | quoted octets :: rest => if rest.all (isText octets) then some fixed else none
  | _ => none

def item? : List Part → Option Part
  | [sign, number n] => some (signed n)
  | [number n, sign, number m] => sum? n m
  | [signed n, sign, number m] => sum? n m
  | [sign, number n, sign, number m] => sum? n m
  | [setName, unit] => some changeable
  | [setName] => some setName
  | [unit] => some fixed
  | [number n] => some (number n)
  | [signed n] => some (signed n)
  | [fixed] => some fixed
  | [changeable] => some changeable
  | parts => texts? parts

end Part

def splitParts (p : Part → Bool) : List Part → List (List Part)
  | [] => [[]]
  | c :: rest =>
      if p c then [] :: splitParts p rest
      else match splitParts p rest with
        | [] => [[c]]
        | parts :: more => (c :: parts) :: more

/-- What stands between commas. A comma at the end has nothing behind it. -/
def between (parts : List Part) : List (List Part) :=
  let lists := splitParts Part.isComma parts
  match lists.getLast? with
  | some [] => lists.dropLast
  | _ => lists

def row? (parts : List Part) : Option (List Part) := do
  let values ← (between parts).mapM Part.item?
  if values.all Part.isValue && !values.isEmpty then some values else none

def tuple? (parts : List Part) : Option Part :=
  (row? parts).map fun values => if values.all Part.isKey then .fixed else .changeable

def round? (parts : List Part) : Option Part :=
  if parts.isEmpty then some .unit
  else if parts.any Part.isComma then tuple? parts
  else Part.item? parts

def entry? (parts : List Part) : Option Unit :=
  match splitParts Part.isColon parts with
  | [key, value] => do
      let key ← Part.item? key
      let value ← Part.item? value
      if key.isKey && value.isValue then some () else none
  | _ => none

def dictionary? (parts : List Part) : Option Part := do
  (between parts).forM entry?
  return .changeable

def set? (parts : List Part) : Option Part := do
  if (← row? parts).all Part.isKey then some .changeable else none

def bracketed? (parts : List Part) : Bracket → Option Part
  | .round => round? parts
  | .square => if parts.isEmpty then some .changeable else (row? parts).map fun _ => .changeable
  | .curly =>
      if parts.isEmpty then some .changeable
      else if parts.any Part.isColon then dictionary? parts
      else set? parts

/-- The brackets that are open, the innermost first, each behind the parts in front of it, and the
parts in the innermost one. Of all parts the last comes first. -/
structure Nesting where
  opened : List (Bracket × List Part)
  inside : List Part

namespace Nesting

def start : Nesting := ⟨[], []⟩

/-- No more brackets are open at a time. -/
def limit : Nat := 200

/-- Line ends count only outside of brackets. -/
def step (n : Nesting) : Token → Option Nesting
  | .part p =>
      if p.isLineEnd && !n.opened.isEmpty then some n else some { n with inside := p :: n.inside }
  | .opening b => if n.opened.length < limit then some ⟨(b, n.inside) :: n.opened, []⟩ else none
  | .closing b =>
      match n.opened with
      | (mate, before) :: opened =>
          if mate = b then
            (bracketed? n.inside.reverse b).map fun value => ⟨opened, value :: before⟩
          else none
      | [] => none

def finish? (n : Nesting) : Option (List Part) :=
  if n.opened.isEmpty then some (n.inside.dropWhile Part.isLineEnd).reverse else none

end Nesting

def accepts (text : Text) : Bool :=
  let parts := (Token.list? text).bind fun tokens =>
    (tokens.foldlM Nesting.step .start).bind Nesting.finish?
  (parts.bind row?).isSome

end ApiStubs.Literal
