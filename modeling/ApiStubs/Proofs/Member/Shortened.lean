import ApiStubs.Proofs.Member.Param
import ApiStubs.Proofs.TypeExpr.Shortened

/-! Parameters with short names: their type is shortened as text, and that is what shortening every
name of the type gives. -/

namespace ApiStubs

namespace Param

theorem Constructed.exists_shortened {p : Param} (h : p.Constructed) :
    ∃ t u q, p.type = .ok t ∧ t.shortened = .ok u ∧ p.shortened = .ok q ∧
      q.typeText = u.render := by
  obtain ⟨t, ht, -⟩ := h.exists_type
  obtain ⟨u, hu, hparse⟩ := TypeExpr.shortensAs_of_parse ht
  exact ⟨t, u, _, ht, hu, make_eq_ok_iff.2 ⟨u, hparse, rfl⟩, rfl⟩

theorem shortened_shortened {p q : Param} (h : p.shortened = .ok q) : q.shortened = .ok q := by
  obtain ⟨u, hu, rfl⟩ := make_eq_ok_iff.1 h
  -- `u` was read from a text that has nothing left to drop, so it is short already
  obtain ⟨v, hv, hparse⟩ := TypeExpr.shortensAs_of_parse hu
  rw [shortTypeText, Lua.shorten_shorten, ← shortTypeText, hu] at hparse
  cases hparse
  obtain ⟨w, hw, hagain⟩ := TypeExpr.shortensAs_of_parse (TypeExpr.parse_render hu)
  rw [hv] at hw
  cases hw
  rw [shortened, make_eq_ok_iff]
  exact ⟨u, hagain, by rw [shortName, shortName, Lua.identifier_shorten_identifier]⟩

end Param

/-- A parameter can always be shortened, and its type text becomes what its type is written as with
every name short. A text can be shortened before it is read or after. Short types have the shape of
the whole ones, and shortening a second time changes neither a type nor a parameter. -/
theorem projections_agree :
    (∀ p, Param.Constructed p → ∃ t u q, p.type = .ok t ∧ t.shortened = .ok u ∧
      p.shortened = .ok q ∧ q.typeText = u.render ∧ q.shortened = .ok q) ∧
    (∀ text t, TypeExpr.parse text = .ok t → t.Constructed ∧
      ∃ u, t.shortened = .ok u ∧ TypeExpr.parse (Lua.shorten text) = .ok u) ∧
    ∀ t, TypeExpr.Constructed t → ∃ u, t.shortened = .ok u ∧ u.shape = t.shape ∧
      u.shortened = .ok u := by
  refine ⟨fun p hp => ?_, fun text t ht => ?_, fun t ht => ?_⟩
  · obtain ⟨t, u, q, ht, hu, hq, htext⟩ := hp.exists_shortened
    exact ⟨t, u, q, ht, hu, hq, htext, Param.shortened_shortened hq⟩
  · exact ⟨(TypeExpr.safe_of_parse ht).constructed, TypeExpr.shortensAs_of_parse ht⟩
  · obtain ⟨u, hu⟩ := ht.safe.exists_shortened
    exact ⟨u, hu, TypeExpr.shape_of_shortened hu, TypeExpr.shortened_shortened hu⟩

/-- A qualified built-in type in capitals, a wildcard, an array, an empty segment, and brackets that
close nothing. -/
theorem projections_agree_unbalanced :
    let text : Text :=
      " java.lang.STRING <a.B>,<c.ANY , ? extends d.E[]> , <x.y.A<,p.q.Void, > , z..w.V>"
    let t : TypeExpr := ⟨"java.lang.STRING", [⟨"a.B>,<c.ANY", []⟩,
      ⟨"? extends d.E[]> ,", [⟨"x.y.A<,p.q.Void,", []⟩]⟩, ⟨"z..w.V", []⟩]⟩
    let u : TypeExpr := ⟨"string", [⟨"B>,<ANY", []⟩, ⟨"? extends E[]> ,", [⟨"A<,Void,", []⟩]⟩,
      ⟨"z..V", []⟩]⟩
    let p : Param := ⟨t.render, "m.end"⟩
    let q : Param := ⟨u.render, "_end"⟩
    Param.make text "m.end" = .ok p ∧ p.type = .ok t ∧ p.shortened = .ok q ∧
      q.shortened = .ok q ∧ t.shortened = .ok u ∧ TypeExpr.parse (Lua.shorten text) = .ok u ∧
      u.shape = t.shape ∧ u.shortened = .ok u := by
  intro text t u p q
  have ht : TypeExpr.parse text = .ok t := eq_ok_of_toOption (by decide +kernel)
  have hu : t.shortened = .ok u := eq_ok_of_toOption (by decide +kernel)
  have hp : Param.make text "m.end" = .ok p := Param.make_eq_ok_iff.2 ⟨t, ht, by decide +kernel⟩
  have hq : p.shortened = .ok q := eq_ok_of_toOption (by decide +kernel)
  obtain ⟨hparams, htexts, htypes⟩ := projections_agree
  obtain ⟨_, _, r, _, _, hr, _, hfixed⟩ := hparams p (.made hp)
  obtain ⟨hmade, v, hv, hread⟩ := htexts text t ht
  obtain ⟨w, hw, hshape, hagain⟩ := htypes t hmade
  rw [hq] at hr
  rw [hu] at hv hw
  cases hr
  cases hv
  cases hw
  exact ⟨hp, TypeExpr.parse_render ht, hq, hfixed, hu, hread, hshape, hagain⟩

end ApiStubs
