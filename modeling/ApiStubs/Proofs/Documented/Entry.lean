import ApiStubs.Proofs.Documented.Page
import ApiStubs.Proofs.Member.Signature

/-! Documented methods. Their parameters were accepted like any others. -/

namespace ApiStubs

theorem DocumentedMethod.check_constructed {value : Json} {m : DocumentedMethod}
    (h : check value = .ok m) : ∀ p ∈ m.params, p.Constructed := by
  obtain ⟨members, hmembers⟩ := Json.checkModel_eq_ok h
  obtain ⟨g₁, modifiers, hg₁, -, rfl⟩ := Checked.seq_eq_ok_iff.1 hmembers
  obtain ⟨g₂, returnText, hg₂, -, rfl⟩ := Checked.seq_eq_ok_iff.1 hg₁
  obtain ⟨g₃, params, hg₃, hparams, rfl⟩ := Checked.seq_eq_ok_iff.1 hg₂
  obtain ⟨name, -, rfl⟩ := Checked.map_eq_ok_iff.1 hg₃
  intro p hp
  rcases Json.checkMemberOr_eq_ok hparams with rfl | ⟨items, hitems⟩
  · cases hp
  · obtain ⟨item, hitem⟩ := Json.checkList_eq_ok hitems hp
    exact .checked hitem

theorem DocumentedMethod.params_of_toMethod {d : DocumentedMethod} {m : Method}
    (h : d.toMethod = .ok m) : m.params = d.params := by
  obtain ⟨returns, -, hreturn⟩ := bind_eq_ok_iff.1 h
  cases hreturn
  rfl

namespace Page

theorem constructed_of_readMethods {data : List (Text × Json)} {documented : List Method}
    (h : readMethods data = .ok documented) : ∀ m ∈ documented, m.Constructed := by
  obtain ⟨entries, hentries, hmethods⟩ := bind_eq_ok_iff.1 h
  intro m hm
  obtain ⟨d, hd, hmethod⟩ := exists_of_mem_forall₂ (mapM_eq_ok_iff.1 hmethods) hm
  obtain ⟨item, hitem⟩ := Json.checkList_eq_ok (Checked.result_eq_ok_iff.1 hentries) hd
  rw [Method.Constructed, DocumentedMethod.params_of_toMethod hmethod]
  exact DocumentedMethod.check_constructed hitem

theorem Sound.readMethods_of_methods {p : Page} (h : p.Sound) {documented : List Method}
    (hmethods : p.methods.1 = .ok documented) : readMethods p.data = .ok documented := by
  rw [Page.methods] at hmethods
  split at hmethods
  · rename_i kept hkept
    cases hmethods
    exact h.methods _ hkept
  · split at hmethods
    · rename_i read hread
      cases hmethods
      exact hread
    · cases hmethods

theorem Sound.constructed {p : Page} (h : p.Sound) {documented : List Method}
    (hmethods : p.methods.1 = .ok documented) : ∀ m ∈ documented, m.Constructed :=
  constructed_of_readMethods (h.readMethods_of_methods hmethods)

end Page
end ApiStubs
