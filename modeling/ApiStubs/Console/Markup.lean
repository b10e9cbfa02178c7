import ApiStubs.Console.Emoji
import ApiStubs.Console.Literal
import ApiStubs.Console.Style
import ApiStubs.Console.Styled
import ApiStubs.Text.Word

/-! Console markup: tags in square brackets style what follows and are not shown, and names between
colons are shown as emoji. A backslash before a bracket makes it plain text. -/

namespace ApiStubs.Markup

structure Tag where
  name : Text
  parameters : Option Text

inductive Piece
  | plain (text : Text)
  | opening (tag : Tag)
  | closing (name : Text)

def startsTag (c : CodePoint) : Bool :=
  ('a' ≤ c && c ≤ 'z') || c == '#' || c == '/' || c == '@'

def isInTag (c : CodePoint) : Bool := c != '[' && c != ']'

def tagBody? : Text → Option (Text × Text)
  | [] => none
  | c :: rest =>
      if startsTag c then
        match (c :: rest).dropWhile isInTag with
        | .char ']' :: after => some ((c :: rest).takeWhile isInTag, after)
        | _ => none
      else none

def isBackslash (c : CodePoint) : Bool := c == '\\'

def tag? (text : Text) : Option (Nat × Text × Text) :=
  match text.dropWhile isBackslash with
  | .char '[' :: rest => (tagBody? rest).map fun (body, after) =>
      ((text.takeWhile isBackslash).length, body, after)
  | _ => none

theorem length_tag? {text body after : Text} {n : Nat}
    (h : tag? text = some (n, body, after)) : after.length < text.length := by
  have h1 := (List.dropWhile_suffix isBackslash (l := text)).length_le
  simp only [tag?] at h
  split at h
  · rename_i rest heq
    rw [heq] at h1
    obtain ⟨⟨b, a⟩, hb, he⟩ := Option.map_eq_some_iff.1 h
    cases he
    cases rest with
    | nil => simp [tagBody?] at hb
    | cons c tail =>
      have h2 := (List.dropWhile_suffix isInTag
        (l := c :: tail)).length_le
      simp only [tagBody?] at hb
      split at hb
      · split at hb
        · rename_i heq2
          rw [heq2] at h2
          cases hb
          simp only [List.length_cons] at h1 h2 ⊢
          omega
        · cases hb
      · cases hb
  · cases h

def isOfName (c : CodePoint) : Bool := c != '='

def Tag.ofBody (body : Text) : Tag where
  name := body.takeWhile isOfName
  parameters := match body.dropWhile isOfName with
    | _ :: parameters => some parameters
    | [] => none

/-- Two backslashes are one plain one, and an odd one makes the tag plain. -/
def pieces (slashes : Nat) (body : Text) : List Piece :=
  let escaped := .plain (List.replicate (slashes / 2) (.char '\\'))
  if slashes % 2 = 1 then [escaped, .plain ("[" ++ body ++ "]")]
  else match body with
    | .char '/' :: name => [escaped, .closing (Text.trim (Tag.ofBody name).name)]
    | body => [escaped, .opening (.ofBody body)]

/-- `plain` holds the plain characters in front of the text, the last of them first. -/
def scan (plain : Text) (text : Text) : List Piece :=
  match text with
  | [] => [.plain plain.reverse]
  | c :: rest =>
      match _h : tag? (c :: rest) with
      | some (slashes, body, after) =>
          .plain plain.reverse :: (pieces slashes body ++ scan [] after)
      | none => scan (c :: plain) rest
termination_by text.length
decreasing_by
  · exact length_tag? _h
  · simp

def bare : Text → Text
  | .char '\\' :: .char '[' :: rest => '[' :: bare rest
  | c :: rest => c :: bare rest
  | [] => []

inductive Fault
  | unmatched
  | notLiteral
  | badColor

structure Open where
  name : Text
  parameters : Option Text
  start : Nat

def Open.ofTag (start : Nat) (tag : Tag) : Except Fault Open := do
  let name ← (Style.normal tag.name).mapError fun _ => Fault.badColor
  return ⟨name, tag.parameters, start⟩

def isOfHandler (c : CodePoint) : Bool := Text.isWord c || c == '.'

def acceptsCall (text : Text) : Bool :=
  match text.dropWhile isOfHandler with
  | [] => true
  | .char '(' :: rest =>
      if rest.getLast? = some (.char ')') && !rest.contains (.char '\n') then
        Literal.accepts ('(' :: rest)
      else Literal.accepts text
  | _ => Literal.accepts text

def Open.isEvent (o : Open) : Bool := o.name.head? == some (.char '@')

def Open.check (o : Open) : Except Fault Unit :=
  match o.isEvent, o.parameters with
  | true, some parameters =>
      if parameters.isEmpty || acceptsCall (Text.trim parameters) then .ok ()
      else .error .notLiteral
  | _, _ => .ok ()

def Open.definition (o : Open) : Text :=
  match o.parameters with
  | some parameters => o.name ++ " " ++ parameters
  | none => o.name

def Open.span (o : Open) (stop : Nat) (closed : Bool) : Span :=
  ⟨o.start, stop, if closed && o.isEvent then none else some o.definition⟩

def close (name : Text) (stack : List Open) : Except Fault (Open × List Open) :=
  if name.isEmpty then
    match stack with
    | [] => .error .unmatched
    | last :: before => do
        last.check
        return (last, before)
  else do
    let name ← (Style.normal name).mapError fun _ => Fault.badColor
    match stack.find? (·.name == name) with
    | none => throw .unmatched
    | some o => do
        o.check
        return (o, stack.eraseP (·.name == name))

def isControl (c : CodePoint) : Bool :=
  let n := c.toNat
  n == 7 || n == 8 || n == 11 || n == 12 || n == 13

def visible (text : Text) : Text := (Emoji.replace (bare text)).filter fun c => !isControl c

def showPieces (stack : List Open) (shown : Styled) : List Piece → Except Fault Styled
  | [] => .ok { shown with
      spans := shown.spans ++ stack.map fun o => o.span shown.text.length false }
  | .plain text :: rest => showPieces stack { shown with text := shown.text ++ visible text } rest
  | .opening tag :: rest => do
      showPieces ((← Open.ofTag shown.text.length tag) :: stack) shown rest
  | .closing name :: rest => do
      let (o, stack) ← close name stack
      showPieces stack { shown with spans := shown.spans ++ [o.span shown.text.length true] } rest

def render (text : Text) : Except Fault Styled := showPieces [] (.ofText []) (scan [] text)

def hasNoNumber (definition : Text) : Bool :=
  match Style.ofDefinition definition with
  | .error .noNumber => true
  | _ => false

def badDefinitions (s : Styled) : List Text :=
  (s.spans.filterMap Span.definition).filter hasNoNumber

/-- The definition of a style counts only if one of the lines shows the style. -/
def checkStyles (s : Styled) (lines : List Styled) : Except Fault Unit :=
  let bad := badDefinitions s
  if lines.any fun line => line.spans.any fun span => (span.definition.map bad.contains).getD false
  then .error .badColor
  else .ok ()

def styled (style text : Text) : Text := "[" ++ style ++ "]" ++ text ++ "[/" ++ style ++ "]"

end ApiStubs.Markup
