import ApiStubs.Documented.PagePath
import ApiStubs.Merge.Class

/-! What becomes of one exposed class. A page that cannot be had is as good as none, and a section
that cannot be read skips the class. -/

namespace ApiStubs.Batch

variable [Json.DepthLimit]

inductive Outcome
  | excluded
  | skipped (reason : Text)
  | merged (stub : ClassStub)

inductive Abort
  | made (fault : Fault)
  | page (cause : PageCrash)

def Abort.message : Abort → Text
  | .made fault => fault.message
  | .page cause => cause.message

abbrev Compiling (α : Type) : Type := Traced (Option PageStore) Abort α

def withoutPagePath (className : Text) : Compiling Outcome := do
  let reason :=
    "Unable to find path for class \"" ++ className ++ "\", might be an internal class"
  Traced.report (.make .noPagePath className reason)
  return .skipped reason

def receive (className pagePath : Text) : Except PageFault Shelved → Compiling (Option Shelved)
  | .ok ⟨serial, .found page⟩ => return some ⟨serial, .found page⟩
  | .ok ⟨serial, .missing reason⟩ => do
      Traced.report
        (.make .noPage className ("Unable to find API page for path " ++ pagePath))
      return some ⟨serial, .missing reason⟩
  | .error (.failed path problem) => do
      Traced.report (.make .lookupFailed className (PageFault.failed path problem).message)
      return none
  | .error (.crashed cause) => Traced.fail (.page cause)

def mergedReport (c : ObservedClass) (stub : ClassStub) (lookup : Lookup) : Diagnostic :=
  let source := match lookup with
    | .found page => page.name
    | .missing _ => "reflection only"
  .make .classCompiled c.name
    ("Compiled class " ++ c.name ++ " with " ++ toString stub.fields.length ++ " fields and "
      ++ toString stub.methods.length ++ " methods (" ++ source ++ ")")

def skippedReason (fault : DetailFault) : Text :=
  "Error occurred while compiling members for document " ++ fault.page ++ ": " ++ fault.message

def conclude (c : ObservedClass) (lookup : Lookup) :
    Except MergeFault ClassStub → Compiling Outcome
  | .ok stub => do
      Traced.report (mergedReport c stub lookup)
      return .merged stub
  | .error (.detail fault) => do
      Traced.report (.make .classSkipped c.name (skippedReason fault))
      return .skipped (skippedReason fault)
  | .error (.made fault) => Traced.fail (.made fault)

def putBack (pagePath : Text) (shelved : Option Shelved) (lookup : Lookup)
    (store : Option PageStore) : Option PageStore :=
  match shelved, store with
  | some old, some s => some (s.update pagePath ⟨old.serial, lookup⟩)
  | _, store => store

def mergeWith (c : ObservedClass) (pagePath : Text) (shelved : Option Shelved) :
    Compiling Outcome := fun store =>
  let lookup := (shelved.map Shelved.lookup).getD noSource
  let merging := (Merge.wholeClass c).run lookup
  let ending := (conclude c merging.state merging.result).run
    (putBack pagePath shelved merging.state store)
  { ending with reports := merging.reports ++ ending.reports }

def consult (files : FileTree) (className pagePath : Text) : Compiling (Option Shelved)
  | none => ⟨.ok none, [], none⟩
  | some store =>
      let (answer, store) := store.fetch files pagePath
      (receive className pagePath answer).run (some store)

def compileClass (files : FileTree) (c : ObservedClass) : Compiling Outcome :=
  match pagePath? c.name with
  | none => withoutPagePath c.name
  | some pagePath => do mergeWith c pagePath (← consult files c.name pagePath)

end ApiStubs.Batch
