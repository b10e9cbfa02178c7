import ApiStubs.Member.Param
import ApiStubs.Proofs.TypeExpr.Reparse

/-! Parameters keep the type that their text was read as. -/

namespace ApiStubs

namespace Param

theorem checkTypeText_eq_ok_iff {value : Json} {text : Text} :
    checkTypeText value = .ok text ↔
      ∃ t, TypeExpr.parse value.display = .ok t ∧ text = t.render := by
  rw [checkTypeText, TypeExpr.parse_trim]
  constructor
  · intro h
    split_ifs at h
    · exact absurd h Checked.refuse_ne_ok
    · split at h
      · rename_i t ht
        exact ⟨t, ht, (Json.checkNonEmpty_eq_ok_iff.1 h).2.2⟩
      · exact absurd h Checked.ofFault_ne_ok
  · rintro ⟨t, ht, rfl⟩
    have hne : Text.trim value.display ≠ Text.ofString "" := TypeExpr.trim_ne_nil_of_parse ht
    rw [if_neg hne, ht]
    exact Json.checkNonEmpty_eq_ok_iff.2
      ⟨TypeExpr.not_isTorn_render ht, (TypeExpr.settled_of_parse ht).ne_nil, rfl⟩

theorem make_eq_ok_iff {typeText name : Text} {p : Param} :
    make typeText name = .ok p ↔
      ∃ t, TypeExpr.parse typeText = .ok t ∧ p = ⟨t.render, Lua.identifier name⟩ := by
  rw [make, Checked.result_eq_ok_iff, Checked.seq_eq_ok_iff]
  constructor
  · rintro ⟨g, a, hg, ha, rfl⟩
    obtain ⟨text, htext, rfl⟩ := Checked.map_eq_ok_iff.1 hg
    obtain ⟨t, ht, rfl⟩ := checkTypeText_eq_ok_iff.1 (Checked.under_eq_ok_iff.1 htext)
    rw [Checked.pure_eq_ok_iff] at ha
    exact ⟨t, ht, by rw [ha]⟩
  · rintro ⟨t, ht, rfl⟩
    have htext : checkTypeText (.str typeText) = .ok t.render :=
      checkTypeText_eq_ok_iff.2 ⟨t, ht, rfl⟩
    exact ⟨_, _, Checked.map_eq_ok_iff.2 ⟨_, Checked.under_eq_ok_iff.2 htext, rfl⟩, rfl, rfl⟩

inductive Constructed : Param → Prop
  | made {typeText name : Text} {p : Param} (h : make typeText name = .ok p) : Constructed p
  | checked {value : Json} {p : Param} (h : check value = .ok p) : Constructed p

theorem Constructed.exists_parse {p : Param} (h : Constructed p) :
    ∃ text t name, TypeExpr.parse text = .ok t ∧ p = ⟨t.render, Lua.identifier name⟩ := by
  cases h with
  | @made typeText name _ h =>
    obtain ⟨t, ht, rfl⟩ := make_eq_ok_iff.1 h
    exact ⟨typeText, t, name, ht, rfl⟩
  | checked h =>
    obtain ⟨members, hmembers⟩ := Json.checkModel_eq_ok h
    obtain ⟨g, a, hg, ha, rfl⟩ := Checked.seq_eq_ok_iff.1 hmembers
    obtain ⟨text, htext, rfl⟩ := Checked.map_eq_ok_iff.1 hg
    obtain ⟨value, hvalue⟩ := Json.checkMember_eq_ok htext
    obtain ⟨t, ht, rfl⟩ := checkTypeText_eq_ok_iff.1 hvalue
    rcases Json.checkMemberOr_eq_ok ha with rfl | ⟨name, hname⟩
    · exact ⟨_, t, [], ht, rfl⟩
    · rw [Checked.pure_eq_ok_iff] at hname
      exact ⟨_, t, name.display, ht, by rw [hname]⟩

theorem Constructed.exists_type {p : Param} (h : Constructed p) :
    ∃ t, p.type = .ok t ∧ t.render = p.typeText := by
  obtain ⟨text, t, name, ht, rfl⟩ := h.exists_parse
  exact ⟨t, TypeExpr.parse_render ht, rfl⟩

theorem Constructed.make_eq {p : Param} (h : Constructed p) : make p.typeText p.name = .ok p := by
  obtain ⟨text, t, name, ht, rfl⟩ := h.exists_parse
  rw [make_eq_ok_iff]
  exact ⟨t, TypeExpr.parse_render ht, by rw [Lua.identifier_identifier]⟩

end Param

/-- A text that can be read as a type, balanced or not, gives the same type when that is written
and read again. So types that were read differ in writing, and a parameter that is made again from
its own parts stays what it is. -/
theorem reading_is_stable :
    (∀ text t, TypeExpr.parse text = .ok t → TypeExpr.parse t.render = .ok t) ∧
    (∀ text₁ text₂ t₁ t₂, TypeExpr.parse text₁ = .ok t₁ → TypeExpr.parse text₂ = .ok t₂ →
      t₁.render = t₂.render → t₁ = t₂) ∧
    ∀ p, Param.Constructed p →
      (∃ t, p.type = .ok t ∧ t.render = p.typeText) ∧ Param.make p.typeText p.name = .ok p := by
  refine ⟨fun text t h => TypeExpr.parse_render h, ?_, fun p hp => ⟨hp.exists_type, hp.make_eq⟩⟩
  intro text₁ text₂ t₁ t₂ h₁ h₂ hrender
  have hread₁ := TypeExpr.parse_render h₁
  have hread₂ := TypeExpr.parse_render h₂
  rw [hrender, hread₂] at hread₁
  exact (Except.ok.inj hread₁).symm

/-- Brackets that close nothing, a comma between them, and a blank argument at the end. -/
theorem reading_is_stable_unbalanced :
    let text : Text := " STRING < A>,<b , Any> , <A<,B> , >"
    let t : TypeExpr := ⟨"string", [⟨"A>,<b", []⟩, ⟨"Any> ,", [⟨"A<,B", []⟩]⟩]⟩
    let p : Param := ⟨t.render, "_end"⟩
    TypeExpr.parse text = .ok t ∧ TypeExpr.parse t.render = .ok t ∧
      Param.make text "end" = .ok p ∧ p.type = .ok t ∧ Param.make p.typeText p.name = .ok p := by
  intro text t p
  have ht : TypeExpr.parse text = .ok t := eq_ok_of_toOption (by decide +kernel)
  have hp : Param.make text "end" = .ok p := Param.make_eq_ok_iff.2 ⟨t, ht, by decide +kernel⟩
  obtain ⟨⟨u, hu, hrender⟩, hagain⟩ := reading_is_stable.2.2 p (.made hp)
  have hsame : u = t := reading_is_stable.2.1 p.typeText text u t hu ht hrender
  exact ⟨ht, reading_is_stable.1 text t ht, hp, hsame ▸ hu, hagain⟩

end ApiStubs
