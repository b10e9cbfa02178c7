import ApiStubs.Json.Display

/-! What a run reports besides its result, and the journal that keeps the reports. -/

namespace ApiStubs

inductive DiagnosticKind
  | classExcluded
  | noPagePath
  | noPage
  | lookupFailed
  | fieldMismatch
  | fieldUndocumented
  | methodUndocumented
  | classSkipped
  | repeatedClass
  | classCompiled
  deriving DecidableEq

namespace DiagnosticKind

def all : List DiagnosticKind :=
  [.classExcluded, .noPagePath, .noPage, .lookupFailed, .fieldMismatch, .fieldUndocumented,
   .methodUndocumented, .classSkipped, .repeatedClass, .classCompiled]

def name : DiagnosticKind → Text
  | .classExcluded => "class_excluded"
  | .noPagePath => "no_class_path"
  | .noPage => "no_documentation"
  | .lookupFailed => "lookup_failed"
  | .fieldMismatch => "field_mismatch"
  | .fieldUndocumented => "field_undocumented"
  | .methodUndocumented => "method_undocumented"
  | .classSkipped => "class_skipped"
  | .repeatedClass => "duplicate_class"
  | .classCompiled => "class_compiled"

def ofName? (name : Text) : Option DiagnosticKind := all.find? (·.name == name)

end DiagnosticKind

structure UnknownKind where
  given : Json

def UnknownKind.message (u : UnknownKind) : Text :=
  u.given.inner ++ " is not a valid DiagnosticKind"

namespace DiagnosticKind

def ofJson (value : Json) : Except UnknownKind DiagnosticKind :=
  match value with
  | .str name => match ofName? name with
      | some kind => .ok kind
      | none => .error ⟨value⟩
  | _ => .error ⟨value⟩

def info : Int := 20
def warning : Int := 30
def severe : Int := 40

def level : DiagnosticKind → Int
  | .noPagePath | .lookupFailed | .classSkipped => severe
  | .fieldMismatch | .repeatedClass => warning
  | _ => info

end DiagnosticKind

structure Diagnostic where
  kind : DiagnosticKind
  className : Text
  member : Option Text
  level : Int
  message : Text
  deriving DecidableEq

namespace Diagnostic

def make (kind : DiagnosticKind) (className message : Text) (member : Option Text := none) :
    Diagnostic :=
  ⟨kind, className, member, kind.level, message⟩

/-- A negative level stands for the level of the kind. -/
def withLevel (d : Diagnostic) (level : Int) : Diagnostic :=
  { d with level := if level < 0 then d.kind.level else level }

def logThreshold : Int := 10

def logRecords (d : Diagnostic) : List (Int × Text) :=
  if d.level < logThreshold then [] else [(d.level, "[" ++ d.kind.name ++ "] " ++ d.message)]

end Diagnostic

structure Journal where
  forwards : Bool
  entries : List Diagnostic

namespace Journal

def record (j : Journal) (d : Diagnostic) : Journal × List (Int × Text) :=
  ({ j with entries := j.entries ++ [d] }, if j.forwards then d.logRecords else [])

def entry? (j : Journal) (i : Int) : Option Diagnostic :=
  if 0 ≤ i then j.entries[i.toNat]?
  else if -i ≤ j.entries.length then j.entries[(j.entries.length + i).toNat]?
  else none

def ofKind (j : Journal) (kind : DiagnosticKind) : List Diagnostic :=
  j.entries.filter (·.kind == kind)

end Journal

def countsByKind (diagnostics : List Diagnostic) : List (DiagnosticKind × Nat) :=
  (DiagnosticKind.all.map fun kind => (kind, diagnostics.countP (·.kind == kind))).filter (·.2 ≠ 0)

end ApiStubs
