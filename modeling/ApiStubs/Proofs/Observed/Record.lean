import ApiStubs.Proofs.Observed.Readable
import ApiStubs.Proofs.Validation.Lossless

/-! Records of observed classes and their members. The name of a type is the only part that
validation changes, and it changes only once. -/

namespace ApiStubs

namespace ObservedType

theorem checkName_eq_ok_iff {value : Json} {name : Text} :
    checkName value = .ok name ↔
      ∃ s t, value = .str s ∧ s.isTorn = false ∧ TypeExpr.parse s = .ok t ∧ name = Text.trim s := by
  rw [checkName, Checked.andThen_eq_ok_iff]
  constructor
  · rintro ⟨s, hs, hname⟩
    obtain ⟨rfl, htorn, -⟩ := Json.checkNonEmptyString_eq_ok_iff.1 hs
    rw [TypeExpr.parse_trim] at hname
    split at hname
    · rename_i t ht
      cases hname
      exact ⟨s, t, rfl, htorn, ht, rfl⟩
    · exact absurd hname Checked.ofFault_ne_ok
  · rintro ⟨s, t, rfl, htorn, ht, rfl⟩
    have hne : s ≠ [] := by
      rintro rfl
      exact TypeExpr.trim_ne_nil_of_parse ht (by decide)
    exact ⟨s, Json.checkNonEmptyString_eq_ok_iff.2 ⟨rfl, htorn, hne⟩, by
      rw [TypeExpr.parse_trim, ht]⟩

theorem lossless_checkName : Json.Lossless checkName .str := by
  intro value name h
  obtain ⟨s, t, -, htorn, ht, rfl⟩ := checkName_eq_ok_iff.1 h
  exact checkName_eq_ok_iff.2 ⟨Text.trim s, t, rfl, Lua.not_isTorn_trim htorn, by
    rw [TypeExpr.parse_trim, ht], (Text.trim_trim s).symm⟩

theorem lossless : Json.Lossless check toJson := by
  have hmembers : ∀ members t, checkMembers members = .ok t → check t.toJson = .ok t := by
    intro members t h
    obtain ⟨g, parameters, hg, hparameters, rfl⟩ := Checked.seq_eq_ok_iff.1 h
    obtain ⟨name, hname, rfl⟩ := Checked.map_eq_ok_iff.1 hg
    exact Checked.seq_eq_ok
      (Checked.map_eq_ok
        (Json.checkMember_eq_ok_of_lookup rfl (lossless_checkName.of_member hname)))
      (Json.checkMemberOr_eq_ok_of_lookup rfl (Json.checkStrings_strings parameters))
  intro value t h
  rw [check.eq_def] at h
  split at h
  · exact hmembers _ _ h
  · obtain ⟨members, hchecked⟩ := Json.checkModel_eq_ok h
    exact hmembers _ _ hchecked

end ObservedType

theorem ObservedField.lossless : Json.Lossless check toJson := by
  intro value f h
  obtain ⟨members, hmembers⟩ := Json.checkModel_eq_ok h
  obtain ⟨g₁, synthetic, hg₁, -, rfl⟩ := Checked.seq_eq_ok_iff.1 hmembers
  obtain ⟨g₂, modifiers, hg₂, -, rfl⟩ := Checked.seq_eq_ok_iff.1 hg₁
  obtain ⟨g₃, type, hg₃, htype, rfl⟩ := Checked.seq_eq_ok_iff.1 hg₂
  obtain ⟨name, hname, rfl⟩ := Checked.map_eq_ok_iff.1 hg₃
  exact Checked.seq_eq_ok (Checked.seq_eq_ok (Checked.seq_eq_ok
    (Checked.map_eq_ok
      (Json.checkMember_eq_ok_of_lookup rfl (Json.lossless_nonEmptyString.of_member hname)))
    (Json.checkMember_eq_ok_of_lookup rfl (ObservedType.lossless.of_member htype)))
    (Json.checkMemberOr_eq_ok_of_lookup rfl (Json.checkStrings_strings modifiers)))
    (Json.checkMemberOr_eq_ok_of_lookup rfl rfl)

theorem ObservedParam.lossless : Json.Lossless check toJson := by
  intro value p h
  obtain ⟨members, hmembers⟩ := Json.checkModel_eq_ok h
  obtain ⟨g, name, hg, -, rfl⟩ := Checked.seq_eq_ok_iff.1 hmembers
  obtain ⟨type, htype, rfl⟩ := Checked.map_eq_ok_iff.1 hg
  exact Checked.seq_eq_ok
    (Checked.map_eq_ok
      (Json.checkMember_eq_ok_of_lookup rfl (ObservedType.lossless.of_member htype)))
    (Json.checkMemberOr_eq_ok_of_lookup rfl rfl)

theorem ObservedMethod.check_noValue : ObservedType.check noValue.toJson = .ok noValue := by
  have hname : ObservedType.checkName (.str "void") = .ok "void" :=
    ObservedType.checkName_eq_ok_iff.2 ⟨"void", ⟨"void", []⟩, rfl, by decide,
      eq_ok_of_toOption (by decide +kernel), by decide⟩
  exact Checked.seq_eq_ok (Checked.map_eq_ok (Json.checkMember_eq_ok_of_lookup rfl hname))
    (Json.checkMemberOr_eq_ok_of_lookup rfl (Json.checkStrings_strings []))

theorem ObservedMethod.lossless : Json.Lossless check toJson := by
  intro value m h
  obtain ⟨members, hmembers⟩ := Json.checkModel_eq_ok h
  obtain ⟨g₁, synthetic, hg₁, -, rfl⟩ := Checked.seq_eq_ok_iff.1 hmembers
  obtain ⟨g₂, modifiers, hg₂, -, rfl⟩ := Checked.seq_eq_ok_iff.1 hg₁
  obtain ⟨g₃, returns, hg₃, hreturns, rfl⟩ := Checked.seq_eq_ok_iff.1 hg₂
  obtain ⟨g₄, params, hg₄, hparams, rfl⟩ := Checked.seq_eq_ok_iff.1 hg₃
  obtain ⟨name, hname, rfl⟩ := Checked.map_eq_ok_iff.1 hg₄
  exact Checked.seq_eq_ok (Checked.seq_eq_ok (Checked.seq_eq_ok (Checked.seq_eq_ok
    (Checked.map_eq_ok
      (Json.checkMember_eq_ok_of_lookup rfl (Json.lossless_nonEmptyString.of_member hname)))
    (Json.checkMemberOr_eq_ok_of_lookup rfl (ObservedParam.lossless.list.of_memberOr rfl hparams)))
    (Json.checkMemberOr_eq_ok_of_lookup rfl
      (ObservedType.lossless.of_memberOr check_noValue hreturns)))
    (Json.checkMemberOr_eq_ok_of_lookup rfl (Json.checkStrings_strings modifiers)))
    (Json.checkMemberOr_eq_ok_of_lookup rfl rfl)

theorem ObservedClass.lossless : Json.Lossless check toJson := by
  intro value c h
  obtain ⟨members, hmembers⟩ := Json.checkModel_eq_ok h
  obtain ⟨g₁, methods, hg₁, hmethods, rfl⟩ := Checked.seq_eq_ok_iff.1 hmembers
  obtain ⟨g₂, fields, hg₂, hfields, rfl⟩ := Checked.seq_eq_ok_iff.1 hg₁
  obtain ⟨g₃, modifiers, hg₃, -, rfl⟩ := Checked.seq_eq_ok_iff.1 hg₂
  obtain ⟨name, hname, rfl⟩ := Checked.map_eq_ok_iff.1 hg₃
  exact Checked.seq_eq_ok (Checked.seq_eq_ok (Checked.seq_eq_ok
    (Checked.map_eq_ok
      (Json.checkMember_eq_ok_of_lookup rfl (Json.lossless_nonEmptyString.of_member hname)))
    (Json.checkMemberOr_eq_ok_of_lookup rfl (Json.checkStrings_strings modifiers)))
    (Json.checkMemberOr_eq_ok_of_lookup rfl (ObservedField.lossless.list.of_memberOr rfl hfields)))
    (Json.checkMemberOr_eq_ok_of_lookup rfl
      (ObservedMethod.lossless.list.of_memberOr rfl hmethods))

end ApiStubs
