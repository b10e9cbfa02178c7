import ApiStubs.Files.Path
import ApiStubs.Json.Basic
import ApiStubs.Number.WrittenInt
import ApiStubs.Text.Utf8

/-! The words of a command line. An option takes the next word as its value, whatever that looks
like, and the last of several values counts. -/

namespace ApiStubs.CommandLine

inductive Key
  | descriptors
  | docsDir
  | excludeFile
  | output
  | workers
  | logLevel
  | consuming
  | help
  deriving DecidableEq

namespace Key

def takesValue : Key → Bool
  | consuming | help => false
  | _ => true

def longNames : List (Text × Key) :=
  [("--descriptors", descriptors), ("--docs-dir", docsDir), ("--exclude-file", excludeFile),
    ("--output", output), ("--workers", workers), ("--log-level", logLevel),
    ("--consume-exclusions", consuming), ("--help", help)]

def letters : List (CodePoint × Key) :=
  [('d', descriptors), ('x', excludeFile), ('o', output), ('w', workers)]

end Key

inductive Word
  | plain
  | unknown
  | flag (key : Key)
  | wanting (key : Key)
  | valued (key : Key) (value : Text)

namespace Word

def ofLetter (letter : CodePoint) (more : Text) : Word :=
  match Key.letters.lookup letter with
  | none => unknown
  | some key => if more.isEmpty then wanting key else valued key more

def ofLong (key : Key) (behind : Text) : Word :=
  match key.takesValue, behind with
  | true, [] => wanting key
  | true, _ :: value => valued key value
  | false, [] => flag key
  | false, _ => unknown

def isOfName (c : CodePoint) : Bool := c != '='

def ofText (word : Text) : Word :=
  match word with
  | .char '-' :: c :: more =>
      match Key.longNames.lookup (word.takeWhile isOfName) with
      | some key => ofLong key (word.dropWhile isOfName)
      | none => if c = '-' then unknown else ofLetter c more
  | _ => plain

end Word

structure Given where
  values : List (Key × Text)
  plain : Nat

def Given.add (g : Given) (key : Key) (value : Text) : Given :=
  { g with values := (key, value) :: g.values }

def Given.ofWords : List Text → Option Given
  | [] => some ⟨[], 0⟩
  | word :: rest =>
      if word = "--" then some ⟨[], rest.length⟩
      else match Word.ofText word, rest with
        | .unknown, _ => none
        | .plain, rest => (ofWords rest).map fun g => { g with plain := g.plain + 1 }
        | .flag key, rest => (ofWords rest).map (·.add key [])
        | .valued key value, rest => (ofWords rest).map (·.add key value)
        | .wanting _, [] => none
        | .wanting key, value :: rest => (ofWords rest).map (·.add key value)

def Given.last? (g : Given) (key : Key) : Option Text := g.values.reverse.lookup key

def Given.has (g : Given) (key : Key) : Bool := (g.last? key).isSome

structure Options where
  replaced : List (Text × Json)
  consuming : Bool

/-- The path that an option names. A file can be asked for only by octets, none of them null. -/
def pathValue? (text : Text) : Option Json :=
  match Utf8.encodeName text with
  | .ok octets => if octets.contains 0 then none else some (.str (Path.ofText text).render)
  | .error _ => none

/-- Which words stand for whole numbers is up to the library that reads the options. -/
class IntReader where
  read? : Text → Option Int

/-- A library that takes the texts that are taken for settings. -/
@[reducible] def IntReader.usual : IntReader := ⟨fun text => (WrittenInt.read text).toOption⟩

variable [IntReader]

def workersValue? (text : Text) : Option Json := (IntReader.read? text).map .int

def setting? (g : Given) (name : Text) (key : Key) (value? : Text → Option Json) :
    Option (List (Text × Json)) :=
  match g.last? key with
  | none => some []
  | some text => (value? text).map fun value => [(name, value)]

def Options.ofGiven (g : Given) : Option Options := do
  let descriptors ← setting? g "descriptors" .descriptors pathValue?
  let docsDir ← setting? g "docs_dir" .docsDir pathValue?
  let excludeFile ← setting? g "exclude_file" .excludeFile pathValue?
  let output ← setting? g "output" .output pathValue?
  let workers ← setting? g "workers" .workers workersValue?
  let logLevel ← setting? g "log_level" .logLevel fun text => some (.str text)
  return ⟨descriptors ++ docsDir ++ excludeFile ++ output ++ workers ++ logLevel, g.has .consuming⟩

inductive Command
  | usage
  | help
  | version
  | compile (options : Options)

namespace Command

def ofCompile (words : List Text) : Command :=
  match Given.ofWords words with
  | none => usage
  | some g =>
      if g.has .help then help
      else match Options.ofGiven g with
        | some options => if g.plain = 0 then compile options else usage
        | none => usage

def ofVersion (words : List Text) : Command :=
  match Given.ofWords words with
  | some ⟨[], 0⟩ => version
  -- no option but help is known
  | some g => if g.values.all (·.1 == .help) && g.has .help then help else usage
  | none => usage

def ofName : List Text → Command
  | name :: words =>
      if name = "compile" then ofCompile words
      else if name = "version" then ofVersion words
      else usage
  | [] => usage

/-- Help counts unless an option behind it is unknown. -/
def afterHelp : List Text → Command
  | [] => help
  | word :: words =>
      if word = "--help" then afterHelp words
      else if word = "--" then help
      else match Word.ofText word with
        | .plain => help
        | _ => usage

def ofWords : List Text → Command
  | [] => usage
  | word :: words =>
      if word = "--" then ofName words
      else if word = "--help" then afterHelp words
      else ofName (word :: words)

end Command
end ApiStubs.CommandLine
