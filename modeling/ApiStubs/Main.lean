import ApiStubs.CommandLine.Run

/-! The program: it gathers the files that a command reads, runs the command on them, shows its
screen and writes its output file. -/

namespace ApiStubs.Program

open CommandLine

variable [Json.DepthLimit] [IntReader]

def checked? (environment : List (Text × Text)) (words : List Text) :
    Option (Path × Settings) :=
  match Command.ofWords words with
  | .compile options => (checkedSettings environment options).toOption
  | _ => none

def pageFiles (files : FileTree) (dump : Path) (s : Settings) : List Path :=
  match s.docsDir, Dump.read files dump with
  | some root, .ok classes =>
      classes.filterMap fun c =>
        (pagePath? c.name).bind fun pagePath => (PageStore.pageFile root pagePath).toOption
  | _, _ => []

def gather (files : FileTree) (path : Path) : IO FileTree := do
  let (files, _) := files.makeDirectories path.parent
  try
    let octets ← IO.FS.readBinFile path.render.string
    return ((files.write path octets.toList).toOption).getD files
  catch
    | .noFileOrDirectory .. => return files
    | _ => return (files.makeDirectories path).1

def gatherAll (environment : List (Text × Text)) (words : List Text) : IO FileTree :=
  match checked? environment words with
  | none => return FileTree.empty
  | some (dump, s) => do
      let files ← (dump :: s.excludeFile.toList).foldlM gather FileTree.empty
      (pageFiles files dump s).foldlM gather files

def writeOutput (path : Path) (files : FileTree) : IO Unit := do
  if let .ok octets := files.read path then
    IO.FS.createDirAll path.parent.render.string
    IO.FS.writeBinFile path.render.string octets.toByteArray

def showScreen (screen : Screen) : IO Unit := do
  let summary := screen.summary.map fun (label, value) => label ++ ": " ++ value
  (screen.panel ++ summary ++ screen.lines).forM fun line => IO.println line.string

def exitCode : Ending → UInt32
  | .exit code => code.toUInt32
  | .crash _ => 1

def environmentOf (names : List Text) : IO (List (Text × Text)) := do
  let values ← names.mapM fun name => do return (name, ← IO.getEnv name.string)
  return values.filterMap fun (name, value?) => value?.map fun value => (name, .ofString value)

end ApiStubs.Program

attribute [local instance] ApiStubs.Json.DepthLimit.usual
  ApiStubs.CommandLine.IntReader.usual in
open ApiStubs Program in
def main (arguments : List String) : IO UInt32 := do
  let words := arguments.map Text.ofString
  let environment ← environmentOf (Settings.names.map Settings.variableName)
  let files ← gatherAll environment words
  let (ending, world) := CommandLine.run environment files words
  showScreen world.screen
  match checked? environment words, ending with
  | some (_, s), .exit 0 => writeOutput s.output world.files
  | _, _ => pure ()
  return exitCode ending
