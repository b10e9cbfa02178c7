import ApiStubs.Documented.Entry

/-! Documentation pages. The two sections of a page are read when they are first asked for and then
kept; a section that cannot be read is never kept. -/

namespace ApiStubs

inductive Detail
  | field
  | method
  deriving DecidableEq

def Detail.name : Detail → Text
  | .field => "field"
  | .method => "method"

structure DetailFault where
  page : Text
  detail : Detail
  reason : Text

def DetailFault.message (f : DetailFault) : Text :=
  "Unable to parse " ++ f.detail.name ++ " detail of document " ++ f.page ++ ": " ++ f.reason

structure Page where
  name : Text
  data : List (Text × Json)
  keptFields : Option (List Field)
  keptMethods : Option (List Method)

namespace Page

def ofData (name : Text) (data : List (Text × Json)) : Page := ⟨name, data, none, none⟩

def entries (data : List (Text × Json)) (key : Text) : Json := (data.lookup key).getD (.arr [])

def readFields (data : List (Text × Json)) : Except Fault (List Field) := do
  let found ← Checked.result "list[FieldEntry]"
    (Json.checkList DocumentedField.check (entries data "fields"))
  found.mapM DocumentedField.toField

def readMethods (data : List (Text × Json)) : Except Fault (List Method) := do
  let found ← Checked.result "list[MethodEntry]"
    (Json.checkList DocumentedMethod.check (entries data "methods"))
  found.mapM DocumentedMethod.toMethod

def fields (p : Page) : Except DetailFault (List Field) × Page :=
  match p.keptFields with
  | some kept => (.ok kept, p)
  | none =>
      match readFields p.data with
      | .ok read => (.ok read, { p with keptFields := some read })
      | .error fault => (.error ⟨p.name, .field, fault.message⟩, p)

def methods (p : Page) : Except DetailFault (List Method) × Page :=
  match p.keptMethods with
  | some kept => (.ok kept, p)
  | none =>
      match readMethods p.data with
      | .ok read => (.ok read, { p with keptMethods := some read })
      | .error fault => (.error ⟨p.name, .method, fault.message⟩, p)

def field? (p : Page) (name : Text) : Except DetailFault (Option Field) × Page :=
  let (found, p) := p.fields
  (found.map fun fields => fields.find? (·.name == name), p)

def methodsNamed (p : Page) (name : Text) : Except DetailFault (List Method) × Page :=
  let (found, p) := p.methods
  (found.map fun methods => methods.filter (·.name == name), p)

end Page
end ApiStubs
