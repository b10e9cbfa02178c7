import ApiStubs.Files.Path
import ApiStubs.Text.Upper
import ApiStubs.Validation.Scalar

/-! Settings of a run, from named values or from environment variables. -/

namespace ApiStubs

structure Settings where
  descriptors : Option Path
  docsDir : Option Path
  excludeFile : Option Path
  output : Path
  workers : Int
  logLevel : Text
  deriving DecidableEq

namespace Settings

def checkPath : Json → Checked Path
  | .str s => .ok (Path.ofText s)
  | value => .refuse .notPath value

def checkOptionalPath : Json → Checked (Option Path)
  | .null => .ok none
  | value => some <$> checkPath value

def checkWorkers (value : Json) : Checked Int :=
  value.checkInteger.andThen fun count =>
    if count < 1 then .refuse .belowOne value else .ok count

def logLevels : List Text := ["DEBUG", "INFO", "WARNING", "ERROR", "CRITICAL"]

def normalizeLevel (s : Text) : Text := (Text.upper (Text.trim s))

def checkLogLevel (value : Json) : Checked Text :=
  value.checkString.andThen fun s =>
    let level := normalizeLevel s
    if logLevels.contains level then .ok level
    else .refuse (.broken ("Unknown log level: " ++ level)) value

def defaultOutput : Path := Path.ofText "data/compiled_classes.json"

def checkMembers (members : List (Text × Json)) : Checked Settings :=
  Settings.mk <$> checkMemberOr none members "descriptors" checkOptionalPath
    <*> checkMemberOr none members "docs_dir" checkOptionalPath
    <*> checkMemberOr none members "exclude_file" checkOptionalPath
    <*> checkMemberOr defaultOutput members "output" checkPath
    <*> checkMemberOr 1 members "workers" checkWorkers
    <*> checkMemberOr "INFO" members "log_level" checkLogLevel

def ofValues (members : List (Text × Json)) : Except Fault Settings :=
  (checkMembers members).result "CompilerSettings"

def names : List Text :=
  ["descriptors", "docs_dir", "exclude_file", "output", "workers", "log_level"]

def variableName (name : Text) : Text :=
  "STUBRECON_" ++ (Text.upper name)

def value? (environment : List (Text × Text)) (name : Text) : Option (Text × Json) :=
  match environment.lookup (variableName name) with
  | some raw => if Text.isBlankText raw then none else some (name, .str (Text.trim raw))
  | none => none

def ofEnvironment (environment : List (Text × Text)) : Except Fault Settings :=
  ofValues (names.filterMap (value? environment))

def pathJson : Option Path → Json
  | some p => .str p.render
  | none => .null

def members (s : Settings) : List (Text × Json) :=
  [("descriptors", pathJson s.descriptors), ("docs_dir", pathJson s.docsDir),
    ("exclude_file", pathJson s.excludeFile), ("output", .str s.output.render),
    ("workers", .int s.workers), ("log_level", .str s.logLevel)]

def toJson (s : Settings) : Json := .obj s.members

def override (s : Settings) (replaced : List (Text × Json)) : Except Fault Settings :=
  ofValues (s.members.map fun (name, value) => (name, (replaced.lookup name).getD value))

end Settings
end ApiStubs
