import ApiStubs.Files.Tree
import ApiStubs.Text.Sorted

/-! Names of classes to leave out. A pure list only tests membership; a consuming one uses up an
entry for every class that it leaves out. -/

namespace ApiStubs

structure Exclusions where
  names : List Text
  consuming : Bool
  pending : List Text

namespace Exclusions

def ofNames (names : List Text) (consuming : Bool) : Exclusions :=
  let names := (names.map Text.trim).filter fun name => !name.isEmpty
  ⟨names, consuming, names⟩

def empty : Exclusions := ofNames [] false

def isOfName (c : CodePoint) : Bool := c != '#'

def namesInText (text : Text) : List Text := (Text.lines text).map (·.takeWhile isOfName)

def ofFile (files : FileTree) (path : Path) (consuming : Bool) : Except TextFault Exclusions := do
  return ofNames (namesInText (← files.readText path)) consuming

def isPure (e : Exclusions) : Bool := !e.consuming

def lists (e : Exclusions) (className : Text) : Bool := e.names.contains className

def check (e : Exclusions) (className : Text) : Bool × Exclusions :=
  if e.consuming then
    if e.pending.contains className then
      (true, { e with pending := e.pending.erase className })
    else (false, e)
  else (e.lists className, e)

/-- Entries that left nothing out, ascending. A pure list keeps no account, so it is told what was
left out. -/
def remaining (e : Exclusions) (excluded : List Text) : List Text :=
  if e.consuming then Sorted.sort e.pending
  else Sorted.sortOnce (e.names.filter fun name => !excluded.contains name)

end Exclusions
end ApiStubs
