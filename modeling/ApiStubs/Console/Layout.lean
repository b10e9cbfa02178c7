import ApiStubs.Console.Styled
import ApiStubs.Text.Blank

/-! Lines of console text. Tabs become blanks, and a line that is too wide goes on in the next one:
at the start of a word, or inside a word that no line can hold. -/

namespace ApiStubs.Layout

def isTab (c : CodePoint) : Bool := c == '\t'

/-- A part that ends with a tab, behind `column` columns. A tab is at least one blank and goes on to
the next column that eight divides, and so does a span that covers it. -/
def widenTab (column : Nat) (part : Styled) : Styled :=
  let size := part.text.length
  let text := part.text.dropLast ++ " "
  let blanks := (8 - (column + Columns.count text) % 8) % 8
  ⟨text ++ List.replicate blanks (.char ' '), part.spans.map fun span =>
    if size ≤ span.stop then { span with stop := span.stop + blanks } else span⟩

def widenTabs (column : Nat) : List Styled → List Styled
  | [] => []
  | part :: rest =>
      if part.text.getLast? = some (.char '\t') then
        let part := widenTab column part
        part :: widenTabs (column + Columns.count part.text) rest
      else part :: widenTabs (column + Columns.count part.text) rest

def placesBehind (p : CodePoint → Bool) (index : Nat) : Text → List Nat
  | [] => []
  | c :: rest =>
      if p c then (index + 1) :: placesBehind p (index + 1) rest
      else placesBehind p (index + 1) rest

def expandTabs (line : Styled) : Styled :=
  match placesBehind isTab 0 line.text with
  | [] => line
  | places => Styled.concat (widenTabs 0 (line.cutAt places))

def isSolid (c : CodePoint) : Bool := !Text.isBlank c

def words (text : Text) : List Text :=
  let blanks := text.takeWhile Text.isBlank
  match _h : text.dropWhile Text.isBlank with
  | [] => []
  | c :: tail =>
      let rest := tail.dropWhile isSolid
      (blanks ++ c :: tail.takeWhile isSolid ++ rest.takeWhile Text.isBlank)
        :: words (rest.dropWhile Text.isBlank)
termination_by text.length
decreasing_by
  have h1 := (List.dropWhile_suffix Text.isBlank (l := text)).length_le
  have h2 := (List.dropWhile_suffix isSolid (l := tail)).length_le
  have h3 := (List.dropWhile_suffix Text.isBlank (l := tail.dropWhile isSolid)).length_le
  rw [_h] at h1
  simp only [List.length_cons] at h1
  omega

def trimEnd (word : Text) : Text := (word.reverse.dropWhile Text.isBlank).reverse

structure Folding where
  full : List Text
  piece : Text
  used : Nat

def Folding.add (width : Nat) (f : Folding) (c : Columns.Cluster) : Folding :=
  if f.used + c.columns ≤ width then
    { f with piece := f.piece ++ c.text, used := f.used + c.columns }
  else ⟨f.piece :: f.full, c.text, c.columns⟩

def fold (width : Nat) (word : Text) : List Text :=
  let f := (Columns.clusters word).foldl (Folding.add width) ⟨[], [], 0⟩
  (f.piece :: f.full).reverse

structure Wrapping where
  finished : List Text
  line : Text
  used : Nat

namespace Wrapping

def start : Wrapping := ⟨[], [], 0⟩

def goOn (w : Wrapping) (text : Text) : Wrapping :=
  ⟨if w.finished.isEmpty && w.line.isEmpty then [] else w.line :: w.finished, text,
    Columns.count text⟩

/-- Blanks behind a word need no room. -/
def add (width : Nat) (w : Wrapping) (word : Text) : Wrapping :=
  let size := Columns.count (trimEnd word)
  if w.used + size ≤ width then
    { w with line := w.line ++ word, used := w.used + Columns.count word }
  else if size ≤ width then w.goOn word
  else (fold width word).foldl goOn w

def lines (w : Wrapping) : List Text := (w.line :: w.finished).reverse

end Wrapping

/-- Blanks at the end go as far as the line has more code points than columns. -/
def dropBlanks (width : Nat) (line : Styled) : Styled :=
  let size := line.text.length
  let excess := min (size - (trimEnd line.text).length) (size - width)
  if excess = 0 then line else line.take (size - excess)

def truncate (width : Nat) (line : Styled) : Styled :=
  if Columns.count line.text ≤ width then line
  else
    let text := Styled.fit width line.text
    ⟨text, line.spans.filterMap (Span.upTo? text.length)⟩

def wrapLine (width : Nat) (line : Styled) : List Styled :=
  let lines := ((words line.text).foldl (Wrapping.add width) .start).lines
  (line.cutAt (Styled.ends 0 lines)).map fun line => truncate width (dropBlanks width line)

def isLineFeed (c : CodePoint) : Bool := c == '\n'

def aroundLineFeeds (text : Text) : List Nat :=
  (placesBehind isLineFeed 0 text).flatMap fun place => [place - 1, place]

def splitLines (s : Styled) : List Styled :=
  (s.cutAt (aroundLineFeeds s.text)).filter fun part => part.text != "\n"

def wrap (width : Nat) (s : Styled) : List Styled :=
  (splitLines s).flatMap fun line => wrapLine width (expandTabs line)

end ApiStubs.Layout
