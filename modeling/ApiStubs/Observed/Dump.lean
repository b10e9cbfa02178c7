import ApiStubs.Files.Tree
import ApiStubs.Json.Reader
import ApiStubs.Observed.Class

/-! Dumps of exposed classes: a JSON list of classes, or an object that holds it. -/

namespace ApiStubs

inductive DumpProblem
  | unreadable (problem : FileProblem) (path : Path)
  | unnamable (fault : FileFault)
  | undecodable (fault : Utf8.Fault)
  | notJson (text : Text) (fault : Json.ReadFault)
  | noList
  | malformed (fault : Fault)

/-- Too deep a text is no fault of a dump alone: it is more than a reader can go on after. -/
inductive DumpFault
  | failed (path : Path) (problem : DumpProblem)
  | tooDeep (container : Json.Container)

def DumpProblem.messageWith (tag : Complaint → Text) (path : Text) : DumpProblem → Text
  | .unreadable problem asked =>
      "Unable to read class descriptors from " ++ path ++ ": "
        ++ (FileFault.refused problem asked).message
  | .unnamable fault =>
      "Invalid JSON in class descriptor file " ++ path ++ ": " ++ fault.message
  | .undecodable fault =>
      "Invalid JSON in class descriptor file " ++ path ++ ": " ++ fault.message
  | .notJson text fault =>
      "Invalid JSON in class descriptor file " ++ path ++ ": " ++ fault.message text
  | .noList => "Class descriptor file " ++ path ++ " has no class list"
  | .malformed fault => "Malformed class descriptors in " ++ path ++ ": " ++ fault.messageWith tag

def DumpFault.message : DumpFault → Text
  | .failed path problem => problem.messageWith Complaint.tag path.render
  | .tooDeep container => (Json.Limit.depth container).message

namespace Dump

variable [Json.DepthLimit]

def readJson (files : FileTree) (path : Path) : Except DumpFault Json :=
  match files.readText path with
  | .error (.file (.refused problem asked)) => .error (.failed path (.unreadable problem asked))
  | .error (.file fault) => .error (.failed path (.unnamable fault))
  | .error (.encoding fault) => .error (.failed path (.undecodable fault))
  | .ok text =>
      match Json.readText text with
      | .error (.beyond (.depth container)) => .error (.tooDeep container)
      | .error fault => .error (.failed path (.notJson text fault))
      | .ok value => .ok value

def classList? : Json → Option (List Json)
  | .arr items => some items
  | .obj members =>
      match members.lookup ("classes" : Text) with
      | some (.arr items) => some items
      | _ => none
  | _ => none

def checkClasses (items : List Json) : Except Fault (List ObservedClass) :=
  (Checked.each ObservedClass.check items).result "list[ReflectedClass]"

def ofJson (value : Json) : Except DumpProblem (List ObservedClass) :=
  match classList? value with
  | none => .error .noList
  | some items => (checkClasses items).mapError .malformed

def read (files : FileTree) (path : Path) : Except DumpFault (List ObservedClass) := do
  (ofJson (← readJson files path)).mapError (.failed path)

end Dump
end ApiStubs
