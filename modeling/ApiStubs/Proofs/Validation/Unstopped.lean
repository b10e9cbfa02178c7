import ApiStubs.Proofs.Validation.Checked
import Mathlib.Tactic.SplitIfs

/-! Checks that always go through: whatever is wrong with a value, it is a complaint, and the pass
is not stopped. -/

namespace ApiStubs

namespace Checked

variable {α β : Type}

def Unstopped (x : Checked α) : Prop := ∀ fault, x ≠ .stopped fault

theorem unstopped_ok (a : α) : Unstopped (.ok a) := nofun

theorem unstopped_refuse (issue : Issue) (input : Json) :
    Unstopped (refuse issue input : Checked α) := nofun

theorem unstopped_ofFault (fault : Fault) (input : Json) :
    Unstopped (ofFault fault input : Checked α) := by
  cases fault <;> exact nofun

theorem Unstopped.map {x : Checked α} (h : x.Unstopped) (f : α → β) : Unstopped (f <$> x) := by
  change (Checked.map f x).Unstopped
  cases x with
  | ok a => exact nofun
  | faulty complaints => exact nofun
  | stopped fault => exact absurd rfl (h fault)

theorem Unstopped.seq {f : Checked (α → β)} {x : Checked α} (hf : f.Unstopped)
    (hx : x.Unstopped) : Unstopped (f <*> x) := by
  change (apply f fun _ => x).Unstopped
  cases f with
  | stopped fault => exact absurd rfl (hf fault)
  | ok g => cases x with
    | stopped fault => exact absurd rfl (hx fault)
    | _ => exact nofun
  | faulty complaints => cases x with
    | stopped fault => exact absurd rfl (hx fault)
    | _ => exact nofun

theorem Unstopped.under {x : Checked α} (h : x.Unstopped) (step : Step) :
    (x.under step).Unstopped := by
  cases x with
  | stopped fault => exact absurd rfl (h fault)
  | _ => exact nofun

theorem Unstopped.andThen {x : Checked α} {f : α → Checked β} (hx : x.Unstopped)
    (hf : ∀ a, (f a).Unstopped) : (x.andThen f).Unstopped := by
  cases x with
  | ok a => exact hf a
  | faulty complaints => exact nofun
  | stopped fault => exact absurd rfl (hx fault)

theorem unstopped_each {check : α → Checked β} (h : ∀ a, (check a).Unstopped) (items : List α) :
    (each check items).Unstopped := by
  have hfrom (index : Nat) : (eachFrom check index items).Unstopped := by
    induction items generalizing index with
    | nil => exact unstopped_ok []
    | cons a rest ih => exact .seq (((h a).under _).map _) (ih (index + 1))
  exact hfrom 0

theorem Unstopped.exists_complaints {x : Checked α} (h : x.Unstopped) {model : Text} {fault : Fault}
    (hfault : x.result model = .error fault) :
    ∃ complaints, fault = .invalid model complaints := by
  cases x with
  | ok a => cases hfault
  | faulty complaints =>
    cases hfault
    exact ⟨complaints, rfl⟩
  | stopped fault' => exact absurd rfl (h fault')

end Checked

open Checked (Unstopped)

namespace Json

variable {α : Type}

theorem unstopped_checkModel {check : List (Text × Json) → Checked α}
    (h : ∀ members, (check members).Unstopped) (model : Text) (value : Json) :
    (value.checkModel model check).Unstopped := by
  cases value with
  | obj members => exact h members
  | _ => exact Checked.unstopped_refuse _ _

theorem unstopped_checkMember {check : Json → Checked α} (h : ∀ value, (check value).Unstopped)
    (members : List (Text × Json)) (key : Text) : (checkMember members key check).Unstopped := by
  refine Unstopped.under ?_ _
  split
  · exact h _
  · exact Checked.unstopped_refuse _ _

theorem unstopped_checkMemberOr {check : Json → Checked α} (h : ∀ value, (check value).Unstopped)
    (absent : α) (members : List (Text × Json)) (key : Text) :
    (checkMemberOr absent members key check).Unstopped := by
  rw [checkMemberOr]
  split
  · exact (h _).under _
  · exact Checked.unstopped_ok absent

theorem unstopped_checkString (value : Json) : value.checkString.Unstopped := by
  cases value <;> exact nofun

theorem unstopped_checkNonEmptyString (value : Json) : value.checkNonEmptyString.Unstopped := by
  refine (unstopped_checkString value).andThen fun s => ?_
  rw [checkNonEmpty]
  split_ifs
  · exact Checked.unstopped_refuse _ _
  · exact Checked.unstopped_refuse _ _
  · exact Checked.unstopped_ok s

theorem unstopped_checkList {check : Json → Checked α} (h : ∀ value, (check value).Unstopped)
    (value : Json) : (value.checkList check).Unstopped := by
  cases value with
  | arr items => exact Checked.unstopped_each h items
  | _ => exact Checked.unstopped_refuse _ _

theorem unstopped_checkStrings (value : Json) : value.checkStrings.Unstopped :=
  unstopped_checkList unstopped_checkString value

theorem unstopped_checkBoolean (value : Json) : value.checkBoolean.Unstopped := by
  cases value with
  | str s =>
    rw [checkBoolean]
    split <;> exact nofun
  | int i =>
    rw [checkBoolean]
    split_ifs <;> exact nofun
  | float x =>
    rw [checkBoolean]
    split <;> exact nofun
  | _ => exact nofun

end Json

end ApiStubs
