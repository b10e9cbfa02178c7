import ApiStubs.Batch.Run

/-! Runs over any source of documentation. What answers for pages, and what it hands out, answers as
it likes and may keep a state. The store of pages is one such source. -/

namespace ApiStubs

inductive SourceFault (ε : Type)
  | failed (message : Text)
  | raised (cause : ε)

inductive DocumentFault (ε : Type)
  | detail (document message : Text)
  | raised (cause : ε)

/-- A source with the state `σ` hands out a `κ` for a page path: a document, or the answer that
there is none. This changes while it is asked, and goes back to the source when the class is done. -/
structure Source (σ κ ε : Type) where
  page : Text → σ → Except (SourceFault ε) κ × σ
  putBack : Text → κ → σ → σ
  documentName? : κ → Option Text
  field? : Text → κ → Except (DocumentFault ε) (Option Field) × κ
  methodsNamed : Text → κ → Except (DocumentFault ε) (List Method) × κ
  fault : Fault → ε

namespace Source

open Batch

abbrev Asking (κ ε α : Type) : Type := Traced (Option κ) (DocumentFault ε) α

variable {σ κ ε α : Type} (source : Source σ κ ε)

def ofMergeFault : MergeFault → DocumentFault ε
  | .detail fault => .detail fault.page fault.message
  | .made fault => .raised (source.fault fault)

def settle (x : Merging α) : Asking κ ε α := fun handed =>
  let trace := x.run noSource
  ⟨trace.result.mapError source.ofMergeFault, trace.reports, handed⟩

def ask (question : κ → Except (DocumentFault ε) α × κ) : Asking κ ε (Option (Text × α))
  | none => ⟨.ok none, [], none⟩
  | some k =>
      match source.documentName? k with
      | none => ⟨.ok none, [], some k⟩
      | some name =>
          let (answer, k) := question k
          ⟨answer.map fun a => some (name, a), [], some k⟩

def resolveField (className : Text) (f : ObservedField) : Asking κ ε Field :=
  if f.type.isGeneric then do
    let expected ← source.settle (Merging.made (Merge.placeholder f))
    let documented ← source.ask (source.field? f.name)
    source.settle (Merge.chooseField className expected documented)
  else source.settle (Merging.made f.toField)

def fieldsFrom (className : Text) (taken : List Text) :
    List ObservedField → Asking κ ε (List Field)
  | [] => return []
  | f :: rest =>
      if f.synthetic || taken.contains f.name then fieldsFrom className taken rest
      else do
        let resolved ← source.resolveField className f
        return resolved :: (← fieldsFrom className (f.name :: taken) rest)

def resolveMethod (className : Text) (m : ObservedMethod) : Asking κ ε Method := do
  let observed ← source.settle (Merging.made m.toMethod)
  let documented ← source.ask (source.methodsNamed m.name)
  source.settle (Merge.chooseMethod className observed documented)

def methodsFrom (className : Text) (taken : List (Text × List Text)) :
    List ObservedMethod → Asking κ ε (List Method)
  | [] => return []
  | m :: rest =>
      if m.synthetic then methodsFrom className taken rest
      else do
        let resolved ← source.resolveMethod className m
        let signature := resolved.signature true
        if taken.contains signature then methodsFrom className taken rest
        else return resolved :: (← methodsFrom className (signature :: taken) rest)

def wholeClass (c : ObservedClass) : Asking κ ε ClassStub := do
  let fields ← source.fieldsFrom c.name [] c.fields
  let methods ← source.methodsFrom c.name [] c.methods
  source.settle (Merging.made (ClassStub.make c.name c.modifiers fields methods))

def receive (className pagePath : Text) :
    Except (SourceFault ε) κ → Traced (Option σ) ε (Option κ)
  | .ok k => do
      if (source.documentName? k).isNone then
        Traced.report
          (.make .noPage className ("Unable to find API page for path " ++ pagePath))
      return some k
  | .error (.failed message) => do
      Traced.report (.make .lookupFailed className message)
      return none
  | .error (.raised cause) => Traced.fail cause

def consult (className pagePath : Text) : Traced (Option σ) ε (Option κ)
  | none => ⟨.ok none, [], none⟩
  | some s =>
      let (answer, s) := source.page pagePath s
      (source.receive className pagePath answer).run (some s)

/-- A page of the name of the document; the report of a merged class tells no more of it. -/
def titlePage (handed : Option κ) : Lookup :=
  match handed.bind source.documentName? with
  | some name => .found (.ofData name [])
  | none => noSource

def skippedReason (document message : Text) : Text :=
  "Error occurred while compiling members for document " ++ document ++ ": " ++ message

def conclude (c : ObservedClass) (handed : Option κ) :
    Except (DocumentFault ε) ClassStub → Traced (Option σ) ε Outcome
  | .ok stub => do
      Traced.report (mergedReport c stub (source.titlePage handed))
      return .merged stub
  | .error (.detail document message) => do
      Traced.report (.make .classSkipped c.name (skippedReason document message))
      return .skipped (skippedReason document message)
  | .error (.raised cause) => Traced.fail cause

def handBack (pagePath : Text) : Option κ → Option σ → Option σ
  | some k, some s => some (source.putBack pagePath k s)
  | _, state => state

def mergeWith (c : ObservedClass) (pagePath : Text) (handed : Option κ) :
    Traced (Option σ) ε Outcome := fun state =>
  let merging := (source.wholeClass c).run handed
  let ending := (source.conclude c merging.state merging.result).run
    (source.handBack pagePath merging.state state)
  { ending with reports := merging.reports ++ ending.reports }

def withoutPagePath (className : Text) : Traced (Option σ) ε Outcome := do
  let reason :=
    "Unable to find path for class \"" ++ className ++ "\", might be an internal class"
  Traced.report (.make .noPagePath className reason)
  return .skipped reason

def compileClass (c : ObservedClass) : Traced (Option σ) ε Outcome :=
  match pagePath? c.name with
  | none => withoutPagePath c.name
  | some pagePath => do source.mergeWith c pagePath (← source.consult c.name pagePath)

abbrev Running (σ ε α : Type) : Type := Traced (Exclusions × Option σ) ε α

def onSource (x : Traced (Option σ) ε α) : Running σ ε α := fun (exclusions, state) =>
  let trace := x.run state
  ⟨trace.result, trace.reports, (exclusions, trace.state)⟩

def exclude (className : Text) : Running σ ε Bool := fun (exclusions, state) =>
  let (excluded, exclusions) := exclusions.check className
  ⟨.ok excluded, if excluded then [excludedReport className] else [], (exclusions, state)⟩

def visit (c : ObservedClass) : Running σ ε Outcome := do
  if ← exclude c.name then return .excluded else onSource (source.compileClass c)

def visitAll : List ObservedClass → Running σ ε (List (Text × Outcome))
  | [] => return []
  | c :: rest => do
      let outcome ← source.visit c
      return (c.name, outcome) :: (← visitAll rest)

def finish (outcomes : List (Text × Outcome)) : Running σ ε Compilation :=
  fun (exclusions, state) =>
    let (r, reports) := assemble [] outcomes
    ⟨.ok { r with unusedExclusions := exclusions.remaining r.excluded }, reports,
      (exclusions, state)⟩

def compile (classes : List ObservedClass) : Running σ ε Compilation := do
  finish (← source.visitAll classes)

end Source

namespace PageStore

open Batch

def sourceFault : PageFault → SourceFault Abort
  | .failed pagePath problem => .failed (PageFault.failed pagePath problem).message
  | .crashed cause => .raised (.page cause)

def pageName? : Lookup → Option Text
  | .found page => some page.name
  | .missing _ => none

def asked {α : Type} (question : Page → Except DetailFault α × Page) (otherwise : α)
    (shelved : Shelved) : Except (DocumentFault Abort) α × Shelved :=
  match shelved.lookup with
  | .missing _ => (.ok otherwise, shelved)
  | .found page =>
      let (answer, page) := question page
      (answer.mapError fun fault => .detail fault.page fault.message,
        { shelved with lookup := .found page })

def source [Json.DepthLimit] (files : FileTree) : Source PageStore Shelved Abort where
  page pagePath s :=
    let (answer, s) := s.fetch files pagePath
    (answer.mapError sourceFault, s)
  putBack pagePath shelved s := s.update pagePath shelved
  documentName? shelved := pageName? shelved.lookup
  field? name := asked (·.field? name) none
  methodsNamed name := asked (·.methodsNamed name) []
  fault := .made

end PageStore
end ApiStubs
