import ApiStubs.Batch.Pool
import ApiStubs.CommandLine.Options
import ApiStubs.Console.Screen
import ApiStubs.Json.Writer
import ApiStubs.Observed.Dump
import ApiStubs.Settings

/-! A command from its words to its end: what it shows, which files it changes and how it exits. -/

namespace ApiStubs.CommandLine

variable [Json.DepthLimit] [IntReader]

inductive Failure
  | settings (fault : Fault)
  | noDump
  | consumingWorkers
  | exclusions (problem : FileProblem) (path : Path)
  | dump (path : Path) (problem : DumpProblem)

inductive Crash
  | markup (fault : Markup.Fault)
  | encoding (fault : Utf8.Fault)
  | file (fault : FileFault)
  | tooDeep (container : Json.Container)
  | pool (fault : Batch.PoolFault)
  | unwritable (fault : RecordFault)
  | unprintable (fault : Utf8.Torn)

inductive Ending
  | exit (code : Nat)
  | crash (cause : Crash)

def red (text : Text) : Text := Markup.styled "red" ("❌ " ++ text)

/-- Complaints show the values that they are about, and all of it is read as markup. -/
def Failure.markup : Failure → Text
  | .settings fault => red ("Invalid settings: " ++ fault.messageWith Complaint.fullTag)
  | .noDump =>
      red "Error: No descriptor dump given (--descriptors or STUBRECON_DESCRIPTORS)"
  | .consumingWorkers =>
      red "Error: --consume-exclusions cannot be combined with parallel workers"
  | .exclusions problem path =>
      red ("Unable to read exclusion file: " ++ (FileFault.refused problem path).message)
  | .dump path problem =>
      "\n" ++ red ("Error: " ++ problem.messageWith Complaint.fullTag path.render)

structure World where
  screen : Screen
  files : FileTree

inductive Stop
  | failed (failure : Failure)
  | crashed (cause : Crash)

abbrev Doing (α : Type) : Type := ExceptT Stop (StateM World) α

def orStop {ε α : Type} (stop : ε → Stop) : Except ε α → Doing α
  | .ok a => return a
  | .error e => throw (stop e)

def orCrash {ε α : Type} (crash : ε → Crash) : Except ε α → Doing α :=
  orStop fun e => .crashed (crash e)

def encodable (lines : List Text) : Doing Unit := do
  let _ ← orCrash .unprintable (Utf8.encode lines.flatten)

def print (markup : Text) : Doing Unit := do
  let lines ← orCrash .markup (Screen.textLines markup)
  encodable lines
  let lines := lines.filter fun line => !line.isEmpty
  modify fun w => { w with screen := { w.screen with lines := w.screen.lines ++ lines } }

def printPanel (markup : Text) : Doing Unit := do
  let lines ← orCrash .markup (Screen.panelLines markup)
  encodable lines
  modify fun w => { w with screen := { w.screen with panel := lines } }

/-- The settings of the environment must be valid by themselves, then those that replace them. -/
def settings (environment : List (Text × Text)) (o : Options) : Except Fault Settings := do
  (← Settings.ofEnvironment environment).override o.replaced

def pathOr (p : Option Path) : Text := (p.map Path.render).getD "none"

def panelMarkup (descriptors : Path) (s : Settings) : Text :=
  let row (label value : Text) := label ++ ": " ++ Markup.styled "yellow" value
  Text.join "\n" [Markup.styled "bold cyan" "stubrecon member compilation", "",
    row "Descriptors" descriptors.render, row "Documentation" (pathOr s.docsDir),
    row "Exclusions" (pathOr s.excludeFile), row "Workers" (toString s.workers)]

def readExclusions (s : Settings) (consuming : Bool) : Doing Exclusions := do
  match s.excludeFile with
  | none => return .ofNames [] consuming
  | some path =>
      match Exclusions.ofFile (← get).files path consuming with
      | .ok exclusions => return exclusions
      | .error (.file (.refused problem path)) => throw (.failed (.exclusions problem path))
      | .error (.file fault) => throw (.crashed (.file fault))
      | .error (.encoding fault) => throw (.crashed (.encoding fault))

def openStore (s : Settings) : Doing (Option PageStore) := do
  match s.docsDir with
  | none => return none
  | some root => return some (← orCrash .file (PageStore.opened (← get).files root))

def stopOfDump : DumpFault → Stop
  | .failed path problem => .failed (.dump path problem)
  | .tooDeep container => .crashed (.tooDeep container)

def compile (files : FileTree) (workers : Int) (classes : List ObservedClass)
    (session : Batch.Session) : Except Batch.PoolFault Compilation × List Diagnostic :=
  if 1 < workers then
    let trace := (Batch.compileWith files workers classes).run session
    (trace.result, trace.reports)
  else
    let trace := (Batch.compile files classes).run session
    (trace.result.mapError .aborted, trace.reports)

def writeOutput (path : Path) (r : Compilation) : Doing Unit := do
  let (files, fault?) := (← get).files.makeDirectories path.parent
  modify fun w => { w with files := files }
  if let some fault := fault? then throw (.crashed (.file fault))
  let record ← orCrash .unwritable r.textRecord
  let octets ← orCrash (fun fault => .unwritable (.torn fault)) (Utf8.encode record.write)
  match (← get).files.write path octets with
  | .ok files => modify fun w => { w with files := files }
  | .error fault => throw (.crashed (.file fault))

def summary (r : Compilation) (reports : List Diagnostic) : List (Text × Text) :=
  let count (kind : DiagnosticKind) := toString (reports.countP (·.kind == kind))
  [("Exposed classes", toString r.total), ("Compiled", toString r.classes.length),
    ("Excluded", toString r.excluded.length), ("Skipped", toString r.skipped.length),
    ("Field type mismatches", count .fieldMismatch),
    ("Undocumented methods", count .methodUndocumented)]

def showResult (path : Path) (r : Compilation) (reports : List Diagnostic) : Doing Unit := do
  modify fun w => { w with screen := { w.screen with summary := summary r reports } }
  if !r.unusedExclusions.isEmpty then
    print (Markup.styled "yellow"
      ("⚠️  Unused exclusions: " ++ Text.join ", " r.unusedExclusions))
  print ("\n" ++ Markup.styled "bold" "📁 Results saved to:" ++ " "
    ++ Markup.styled "cyan" path.render)

def checkedSettings (environment : List (Text × Text)) (o : Options) :
    Except Failure (Path × Settings) :=
  match settings environment o with
  | .error fault => .error (.settings fault)
  | .ok s =>
      match s.descriptors with
      | none => .error .noDump
      | some path =>
          if o.consuming && decide (1 < s.workers) then .error .consumingWorkers
          else .ok (path, s)

def doCompile (environment : List (Text × Text)) (o : Options) : Doing Unit := do
  let (dump, s) ← orStop .failed (checkedSettings environment o)
  printPanel (panelMarkup dump s)
  let exclusions ← readExclusions s o.consuming
  let store ← openStore s
  let classes ← orStop stopOfDump (Dump.read (← get).files dump)
  let (result, reports) := compile (← get).files s.workers classes ⟨exclusions, store⟩
  let r ← orCrash .pool result
  writeOutput s.output r
  showResult s.output r reports

def version : Text := "0.1.0"

def doVersion : Doing Unit := do
  print (Markup.styled "bold cyan" "stubrecon" ++ " v" ++ version)
  print "API member reconciliation for scripting stubs"

def settle : Except Stop Unit × World → Ending × World
  | (.ok (), w) => (.exit 0, w)
  | (.error (.crashed cause), w) => (.crash cause, w)
  | (.error (.failed failure), w) =>
      match (print failure.markup).run w with
      | (.ok (), w) => (.exit 1, w)
      | (.error (.crashed cause), w) => (.crash cause, w)
      | (.error (.failed _), w) => (.exit 1, w)

def run (environment : List (Text × Text)) (files : FileTree) (words : List Text) :
    Ending × World :=
  let start : World := ⟨.blank, files⟩
  match Command.ofWords words with
  | .usage => (.exit 2, start)
  | .help => (.exit 0, start)
  | .version => settle (doVersion.run start)
  | .compile options => settle ((doCompile environment options).run start)

end ApiStubs.CommandLine
