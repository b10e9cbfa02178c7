import ApiStubs.Proofs.Documented.Entry
import ApiStubs.Proofs.Member.Record

/-! Records of documented members, and what pages give: fields and methods that are read back from
records of their own. -/

namespace ApiStubs

theorem DocumentedField.lossless : Json.Lossless check toJson := by
  intro value f h
  obtain ⟨members, hmembers⟩ := Json.checkModel_eq_ok h
  obtain ⟨g₁, modifiers, hg₁, -, rfl⟩ := Checked.seq_eq_ok_iff.1 hmembers
  obtain ⟨g₂, type, hg₂, -, rfl⟩ := Checked.seq_eq_ok_iff.1 hg₁
  obtain ⟨name, -, rfl⟩ := Checked.map_eq_ok_iff.1 hg₂
  exact Checked.seq_eq_ok (Checked.seq_eq_ok
    (Checked.map_eq_ok (Json.checkMember_eq_ok_of_lookup rfl rfl))
    (Json.checkMember_eq_ok_of_lookup rfl rfl))
    (Json.checkMemberOr_eq_ok_of_lookup rfl (Json.checkStrings_strings modifiers))

theorem DocumentedMethod.lossless : Json.Lossless check toJson := by
  intro value m h
  obtain ⟨members, hmembers⟩ := Json.checkModel_eq_ok h
  obtain ⟨g₁, modifiers, hg₁, -, rfl⟩ := Checked.seq_eq_ok_iff.1 hmembers
  obtain ⟨g₂, returnText, hg₂, -, rfl⟩ := Checked.seq_eq_ok_iff.1 hg₁
  obtain ⟨g₃, params, hg₃, hparams, rfl⟩ := Checked.seq_eq_ok_iff.1 hg₂
  obtain ⟨name, -, rfl⟩ := Checked.map_eq_ok_iff.1 hg₃
  exact Checked.seq_eq_ok (Checked.seq_eq_ok (Checked.seq_eq_ok
    (Checked.map_eq_ok (Json.checkMember_eq_ok_of_lookup rfl rfl))
    (Json.checkMemberOr_eq_ok_of_lookup rfl (Param.lossless.list.of_memberOr rfl hparams)))
    (Json.checkMemberOr_eq_ok_of_lookup rfl rfl))
    (Json.checkMemberOr_eq_ok_of_lookup rfl (Json.checkStrings_strings modifiers))

theorem DocumentedField.canonical_of_toField {d : DocumentedField} {f : Field}
    (h : d.toField = .ok f) : f.Canonical := by
  obtain ⟨type, htype, hreturn⟩ := bind_eq_ok_iff.1 h
  cases hreturn
  exact ⟨TypeExpr.safe_of_parse htype, Modifiers.normalize_normalize _⟩

theorem DocumentedMethod.canonical_of_toMethod {d : DocumentedMethod} {m : Method}
    (h : d.toMethod = .ok m) (hparams : m.Constructed) : m.Canonical := by
  obtain ⟨returns, hreturns, hreturn⟩ := bind_eq_ok_iff.1 h
  cases hreturn
  exact ⟨hparams, TypeExpr.safe_of_parse hreturns, Modifiers.normalize_normalize _⟩

namespace Page

theorem Sound.readFields_of_fields {p : Page} (h : p.Sound) {documented : List Field}
    (hfields : p.fields.1 = .ok documented) : readFields p.data = .ok documented := by
  rw [Page.fields] at hfields
  split at hfields
  · rename_i kept hkept
    cases hfields
    exact h.fields _ hkept
  · split at hfields
    · rename_i read hread
      cases hfields
      exact hread
    · cases hfields

theorem Sound.canonical_fields {p : Page} (h : p.Sound) {documented : List Field}
    (hfields : p.fields.1 = .ok documented) : ∀ f ∈ documented, f.Canonical := by
  obtain ⟨entries, -, hmade⟩ := bind_eq_ok_iff.1 (h.readFields_of_fields hfields)
  intro f hf
  obtain ⟨d, -, hfield⟩ := exists_of_mem_forall₂ (mapM_eq_ok_iff.1 hmade) hf
  exact DocumentedField.canonical_of_toField hfield

theorem Sound.canonical_methods {p : Page} (h : p.Sound) {documented : List Method}
    (hmethods : p.methods.1 = .ok documented) : ∀ m ∈ documented, m.Canonical := by
  obtain ⟨entries, -, hmade⟩ := bind_eq_ok_iff.1 (h.readMethods_of_methods hmethods)
  intro m hm
  obtain ⟨d, -, hmethod⟩ := exists_of_mem_forall₂ (mapM_eq_ok_iff.1 hmade) hm
  exact DocumentedMethod.canonical_of_toMethod hmethod (h.constructed hmethods m hm)

theorem Sound.canonical_field? {p : Page} (h : p.Sound) {name : Text} {found : Option Field}
    (hfound : (p.field? name).1 = .ok found) : ∀ f ∈ found, f.Canonical := by
  rw [answer_field?] at hfound
  cases hfields : p.fields.1 with
  | error fault => rw [hfields] at hfound; cases hfound
  | ok documented =>
    rw [hfields] at hfound
    cases hfound
    exact fun f hf => h.canonical_fields hfields f (List.mem_of_find?_eq_some hf)

theorem Sound.canonical_methodsNamed {p : Page} (h : p.Sound) {name : Text} {found : List Method}
    (hfound : (p.methodsNamed name).1 = .ok found) : ∀ m ∈ found, m.Canonical := by
  rw [answer_methodsNamed] at hfound
  cases hmethods : p.methods.1 with
  | error fault => rw [hmethods] at hfound; cases hfound
  | ok documented =>
    rw [hmethods] at hfound
    cases hfound
    exact fun m hm => h.canonical_methods hmethods m (List.mem_filter.1 hm).1

end Page
end ApiStubs
