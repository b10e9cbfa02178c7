import ApiStubs.Proofs.Modifiers
import ApiStubs.Proofs.Validation.Checked

/-! Records that lose nothing: what a check has made of any value is written so that the check makes
the same of it again. -/

namespace ApiStubs

/-- A check changes nothing when it runs again over what it has made. -/
def Json.Lossless {α : Type} (check : Json → Checked α) (toJson : α → Json) : Prop :=
  ∀ value a, check value = .ok a → check (toJson a) = .ok a

namespace Json

variable {α : Type} {check : Json → Checked α} {toJson : α → Json}

theorem Lossless.of_member (h : Lossless check toJson) {members : List (Text × Json)} {key : Text}
    {a : α} (hmember : checkMember members key check = .ok a) : check (toJson a) = .ok a := by
  obtain ⟨value, hvalue⟩ := checkMember_eq_ok hmember
  exact h value a hvalue

theorem Lossless.of_memberOr (h : Lossless check toJson) {absent : α}
    (habsent : check (toJson absent) = .ok absent) {members : List (Text × Json)} {key : Text}
    {a : α} (hmember : checkMemberOr absent members key check = .ok a) :
    check (toJson a) = .ok a := by
  rcases checkMemberOr_eq_ok hmember with rfl | ⟨value, hvalue⟩
  · exact habsent
  · exact h value a hvalue

theorem Lossless.list (h : Lossless check toJson) :
    Lossless (checkList check) fun items => .arr (items.map toJson) := by
  intro value items hvalue
  refine checkList_map fun a ha => ?_
  obtain ⟨item, hitem⟩ := checkList_eq_ok hvalue ha
  exact h item a hitem

theorem checkStrings_strings (texts : List Text) : checkStrings (strings texts) = .ok texts :=
  checkList_map fun _ _ => rfl

theorem checkNonEmptyString_eq_ok_iff {value : Json} {s : Text} :
    checkNonEmptyString value = .ok s ↔ value = .str s ∧ s.isTorn = false ∧ s ≠ [] := by
  rw [checkNonEmptyString, Checked.andThen_eq_ok_iff]
  constructor
  · rintro ⟨t, ht, hs⟩
    obtain ⟨htorn, hne, rfl⟩ := checkNonEmpty_eq_ok_iff.1 hs
    cases value with
    | str u =>
      cases ht
      exact ⟨rfl, htorn, hne⟩
    | _ => exact absurd ht Checked.refuse_ne_ok
  · rintro ⟨rfl, htorn, hne⟩
    exact ⟨s, rfl, checkNonEmpty_eq_ok_iff.2 ⟨htorn, hne, rfl⟩⟩

theorem lossless_nonEmptyString : Lossless checkNonEmptyString .str := fun _ _ h =>
  checkNonEmptyString_eq_ok_iff.2 ⟨rfl, (checkNonEmptyString_eq_ok_iff.1 h).2⟩

end Json

namespace Modifiers

theorem check_strings (texts : List Text) : check (Json.strings texts) = .ok (normalize texts) := by
  have htexts : (texts.map Json.str).map Json.display = texts := by
    rw [List.map_map]
    exact List.map_id texts
  rw [check, Json.strings, ofJson, htexts]

theorem lossless : Json.Lossless check Json.strings := by
  intro value modifiers h
  have hcanonical : normalize modifiers = modifiers := by
    rw [check] at h
    split at h
    · rename_i made hmade
      cases h
      cases value <;> cases hmade
      · rfl
      all_goals exact normalize_normalize _
    · cases h
  rw [check_strings, hcanonical]

theorem canonical_of_memberOr {members : List (Text × Json)} {key : Text} {modifiers : List Text}
    (h : checkMemberOr [] members key check = .ok modifiers) : normalize modifiers = modifiers := by
  have hagain := lossless.of_memberOr (check_strings []) h
  rw [check_strings] at hagain
  exact Checked.ok.inj hagain

end Modifiers
end ApiStubs
