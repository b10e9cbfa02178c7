import ApiStubs.Console.Highlight
import ApiStubs.Console.Layout
import ApiStubs.Console.Markup
import ApiStubs.Text.Lines

/-! What a command shows: a panel, a table of counts, and lines. -/

namespace ApiStubs

structure Screen where
  panel : List Text
  summary : List (Text × Text)
  lines : List Text

namespace Screen

def blank : Screen := ⟨[], [], []⟩

def columns : Nat := 1000

/-- A panel has a border and a blank on each side. -/
def panelColumns : Nat := columns - 4

def layOut (width : Nat) (s : Styled) : Except Markup.Fault (List Text) := do
  let lines := Layout.wrap width s
  Markup.checkStyles s lines
  return (lines.flatMap fun line => Text.lines (line.shown width)).map Text.trim

/-- Only where a joiner is cut off from what it hides are the pieces of a text wider than the
text. All other text fits whatever stands out in it. -/
def highlighted (s : Styled) : Styled :=
  if s.text.any Columns.isJoiner then Highlight.add s else s

def textLines (markup : Text) : Except Markup.Fault (List Text) := do
  layOut columns (highlighted (← Markup.render markup))

/-- A panel is as wide as the widest of its lines, in which tabs take no room. -/
def panelWidth (text : Text) : Nat :=
  min panelColumns (((Text.lines text).map Columns.count).foldl max 0)

def panelLines (markup : Text) : Except Markup.Fault (List Text) := do
  let s ← Markup.render markup
  layOut (panelWidth s.text) s

end Screen
end ApiStubs
