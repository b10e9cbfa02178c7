import ApiStubs.Text.Utf8
import ApiStubs.TypeExpr.Record

/-! What keeps a record from being written: types that lie too deep in each other, and, where
octets are written, texts that are torn. -/

namespace ApiStubs

inductive RecordFault
  | tooDeep
  | torn (fault : Utf8.Torn)
  deriving DecidableEq

namespace RecordFault

def kind : RecordFault → Text
  | tooDeep => "ValueError"
  | torn _ => "UnicodeEncodeError"

def message : RecordFault → Text
  | tooDeep => "Maximum serialization depth exceeded"
  | torn fault => fault.message

def inText (f : RecordFault) : Text := "Error serializing to JSON: " ++ f.kind ++ ": " ++ f.message

end RecordFault

/-- Parts of a record, in the order in which they are written. -/
inductive RecordPart
  | text (text : Text)
  | type (type : TypeExpr)

namespace RecordPart

def depthFault? : RecordPart → Option RecordFault
  | text _ => none
  | type t => if t.depth ≤ TypeExpr.memberDepth then none else some .tooDeep

def fault? : RecordPart → Option RecordFault
  | text t => match Utf8.encode t with
      | .ok _ => none
      | .error fault => some (.torn fault)
  | type t => depthFault? (type t)

def texts (texts : List Text) : List RecordPart := texts.map text

end RecordPart

def recordOf (parts : List RecordPart) (record : Json) : Except RecordFault Json :=
  match parts.findSome? RecordPart.depthFault? with
  | some fault => .error fault
  | none => .ok record

def textRecordOf (parts : List RecordPart) (record : Json) : Except RecordFault Json :=
  match parts.findSome? RecordPart.fault? with
  | some fault => .error fault
  | none => .ok record

def TypeExpr.record (t : TypeExpr) : Except RecordFault Json :=
  if t.depth ≤ recordDepth then .ok t.toJson else .error .tooDeep

end ApiStubs
