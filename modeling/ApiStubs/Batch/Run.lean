import ApiStubs.Batch.Outcome
import ApiStubs.Compilation
import ApiStubs.Exclusions

/-! A run over all exposed classes, one after the other, and its result. -/

namespace ApiStubs.Batch

variable [Json.DepthLimit]

/-- What one run leaves to the next: unused entries and pages that were read. -/
structure Session where
  exclusions : Exclusions
  store : Option PageStore

abbrev Running (α : Type) : Type := Traced Session Abort α

def onStore {α : Type} (x : Compiling α) : Running α := fun session =>
  let trace := x.run session.store
  ⟨trace.result, trace.reports, { session with store := trace.state }⟩

def excludedReport (className : Text) : Diagnostic :=
  .make .classExcluded className ("Excluding exposed class " ++ className)

def exclude (className : Text) : Running Bool := fun session =>
  let (excluded, exclusions) := session.exclusions.check className
  ⟨.ok excluded, if excluded then [excludedReport className] else [],
    { session with exclusions := exclusions }⟩

def visit (files : FileTree) (c : ObservedClass) : Running Outcome := do
  if ← exclude c.name then return .excluded else onStore (compileClass files c)

def visitAll (files : FileTree) : List ObservedClass → Running (List (Text × Outcome))
  | [] => return []
  | c :: rest => do
      let outcome ← visit files c
      return (c.name, outcome) :: (← visitAll files rest)

def repeatedReason (className : Text) : Text :=
  "Duplicate of already compiled class " ++ className

/-- Puts every outcome in its place. Of several merged classes of one name the first counts, and
`taken` holds the names before. -/
def assemble (taken : List Text) : List (Text × Outcome) → Compilation × List Diagnostic
  | [] => (⟨[], [], [], [], 0⟩, [])
  | (name, .excluded) :: rest =>
      let (r, reports) := assemble taken rest
      ({ r with excluded := name :: r.excluded, total := r.total + 1 }, reports)
  | (name, .skipped reason) :: rest =>
      let (r, reports) := assemble taken rest
      ({ r with skipped := ⟨name, reason⟩ :: r.skipped, total := r.total + 1 }, reports)
  | (name, .merged stub) :: rest =>
      if taken.contains name then
        let (r, reports) := assemble taken rest
        ({ r with skipped := ⟨name, repeatedReason name⟩ :: r.skipped, total := r.total + 1 },
          .make .repeatedClass name (repeatedReason name) :: reports)
      else
        let (r, reports) := assemble (name :: taken) rest
        ({ r with classes := stub :: r.classes, total := r.total + 1 }, reports)

def finish (outcomes : List (Text × Outcome)) : Running Compilation := fun session =>
  let (r, reports) := assemble [] outcomes
  ⟨.ok { r with unusedExclusions := session.exclusions.remaining r.excluded }, reports, session⟩

def compile (files : FileTree) (classes : List ObservedClass) : Running Compilation := do
  finish (← visitAll files classes)

end ApiStubs.Batch
