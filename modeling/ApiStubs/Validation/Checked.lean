import ApiStubs.Validation.Complaint

/-! Validation that goes on after a complaint, so that one pass reports all of them. Only a value
that cannot be walked through at all stops the pass. -/

namespace ApiStubs

inductive Checked (α : Type)
  | ok (value : α)
  | faulty (complaints : List Complaint)
  | stopped (fault : Fault)

namespace Checked
variable {α β : Type}

def apply (f : Checked (α → β)) (x : Unit → Checked α) : Checked β :=
  match f, x () with
  | .stopped fault, _ => .stopped fault
  | _, .stopped fault => .stopped fault
  | .faulty first, .faulty second => .faulty (first ++ second)
  | .faulty first, .ok _ => .faulty first
  | .ok _, .faulty second => .faulty second
  | .ok f, .ok x => .ok (f x)

def map (f : α → β) : Checked α → Checked β
  | .ok a => .ok (f a)
  | .faulty complaints => .faulty complaints
  | .stopped fault => .stopped fault

instance : Applicative Checked where
  pure := .ok
  map := map
  seq := apply

def refuse (issue : Issue) (input : Json) : Checked α := .faulty [⟨[], issue, input⟩]

/-- A fault of what a value stands for: complaints stay what they are, and any other fault breaks a
rule. -/
def ofFault (fault : Fault) (input : Json) : Checked α :=
  match fault with
  | .invalid _ complaints => .faulty complaints
  | fault => refuse (.broken fault.message) input

def under (step : Step) : Checked α → Checked α
  | .faulty complaints => .faulty (complaints.map (·.under step))
  | checked => checked

def andThen (x : Checked α) (f : α → Checked β) : Checked β :=
  match x with
  | .ok value => f value
  | .faulty complaints => .faulty complaints
  | .stopped fault => .stopped fault

def eachFrom (check : α → Checked β) (index : Nat) : List α → Checked (List β)
  | [] => .ok []
  | x :: rest => List.cons <$> (check x).under (.index index) <*> eachFrom check (index + 1) rest

def each (check : α → Checked β) (items : List α) : Checked (List β) := eachFrom check 0 items

def result (model : Text) : Checked α → Except Fault α
  | .ok value => .ok value
  | .faulty complaints => .error (.invalid model complaints)
  | .stopped fault => .error fault

end Checked

def Json.checkModel {α : Type} (model : Text) (check : List (Text × Json) → Checked α) :
    Json → Checked α
  | .obj members => check members
  | value => .refuse (.notModel model) value

def checkMember {α : Type} (members : List (Text × Json)) (key : Text)
    (check : Json → Checked α) : Checked α :=
  (match members.lookup key with
    | some value => check value
    | none => .refuse .missing (.obj members)).under (.key key)

def checkMemberOr {α : Type} (absent : α) (members : List (Text × Json)) (key : Text)
    (check : Json → Checked α) : Checked α :=
  match members.lookup key with
  | some value => (check value).under (.key key)
  | none => .ok absent

end ApiStubs
