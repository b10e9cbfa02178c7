import ApiStubs.Proofs.Member.Shortened
import ApiStubs.Proofs.Member.Signature

/-! Comparison by short names against comparison of short types. A short type has a safe name, but
names are only made short where they are compared, so a built-in type that was qualified still
stands in the letters that it was written in. -/

namespace ApiStubs

namespace Lua

def SpelledOtherwise (a b : Text) : Prop :=
  a ≠ b ∧ isBuiltIn a = true ∧ Text.lower a = Text.lower b

instance (a b : Text) : Decidable (SpelledOtherwise a b) :=
  inferInstanceAs (Decidable (_ ∧ _ ∧ _))

theorem SpelledOtherwise.typeName_eq {a b : Text} (h : SpelledOtherwise a b)
    (ha : Text.IsTrimmed a) (hb : Text.IsTrimmed b) : typeName a = typeName b := by
  obtain ⟨-, hbuiltIn, hlower⟩ := h
  have hboth : isBuiltIn b = true := by
    rw [← isBuiltIn_lower, ← hlower, isBuiltIn_lower, hbuiltIn]
  rw [typeName_of_isTrimmed ha, typeName_of_isTrimmed hb, if_pos hbuiltIn, if_pos hboth, hlower]

theorem eq_iff_typeName_eq {a b : Text} (ha : Text.IsTrimmed a) (hb : Text.IsTrimmed b) :
    a = b ↔ typeName a = typeName b ∧ ¬SpelledOtherwise a b := by
  constructor
  · intro h
    exact ⟨congrArg typeName h, fun hspelled => hspelled.1 h⟩
  · intro h
    obtain ⟨hsafe, hspelled⟩ := h
    have hboth : isBuiltIn a = isBuiltIn b := by
      rw [← isBuiltIn_typeName ha, ← isBuiltIn_typeName hb, hsafe]
    rw [typeName_of_isTrimmed ha, typeName_of_isTrimmed hb, ← hboth] at hsafe
    by_cases hbuiltIn : isBuiltIn a = true
    · rw [if_pos hbuiltIn, if_pos hbuiltIn] at hsafe
      by_contra hne
      exact hspelled ⟨hne, hbuiltIn, hsafe⟩
    · rwa [if_neg hbuiltIn, if_neg hbuiltIn] at hsafe

end Lua

namespace TypeExpr

variable {t u : TypeExpr}

def SpelledOtherwise (t u : TypeExpr) : Prop := Lua.SpelledOtherwise t.shortName u.shortName

theorem name_of_shortened (h : t.shortened = .ok u) : u.name = Lua.typeName t.shortName := by
  cases t with
  | mk name arguments =>
    obtain ⟨short, -, hmake⟩ := shortened_eq_ok_iff.1 h
    obtain ⟨-, -, rfl⟩ := make_eq_ok_iff.1 hmake
    rfl

theorem Safe.isTrimmed_shortName (h : t.Safe) : Text.IsTrimmed t.shortName := by
  cases h with
  | node hname hne htorn harguments =>
    apply Lua.isTrimmed_shorten
    rw [← hname]
    exact Lua.isTrimmed_typeName _

theorem Safe.sameBase_false_iff {t' u' : TypeExpr} (ht : t.Safe) (hu : u.Safe)
    (ht' : t.shortened = .ok t') (hu' : u.shortened = .ok u') :
    t.sameBase false u = true ↔ t'.name = u'.name ∧ ¬t.SpelledOtherwise u := by
  rw [name_of_shortened ht', name_of_shortened hu', sameBase, beq_iff_eq]
  exact Lua.eq_iff_typeName_eq ht.isTrimmed_shortName hu.isTrimmed_shortName

theorem Safe.name_eq_of_spelledOtherwise {t' u' : TypeExpr} (ht : t.Safe) (hu : u.Safe)
    (ht' : t.shortened = .ok t') (hu' : u.shortened = .ok u') (h : t.SpelledOtherwise u) :
    t'.name = u'.name := by
  rw [name_of_shortened ht', name_of_shortened hu']
  exact Lua.SpelledOtherwise.typeName_eq h ht.isTrimmed_shortName hu.isTrimmed_shortName

end TypeExpr

namespace Param

variable {p q p' q' : Param}

def SpelledOtherwise (p q : Param) : Prop :=
  ∃ t u, p.type = .ok t ∧ q.type = .ok u ∧ t.SpelledOtherwise u

theorem Constructed.shortened_type (hp : p.Constructed) (hp' : p.shortened = .ok p') :
    ∃ t t', p.type = .ok t ∧ t.shortened = .ok t' ∧ p'.type = .ok t' := by
  obtain ⟨t, ht, -⟩ := hp.exists_type
  obtain ⟨t', hshort, hread⟩ := TypeExpr.shortensAs_of_parse ht
  obtain ⟨u, hu, rfl⟩ := make_eq_ok_iff.1 hp'
  have hsame : u = t' := by
    rw [shortTypeText, hread] at hu
    exact (Except.ok.inj hu).symm
  exact ⟨t, t', ht, hshort, hsame ▸ TypeExpr.parse_render hu⟩

theorem Constructed.baseName_false_eq_iff (hp : p.Constructed) (hq : q.Constructed)
    (hp' : p.shortened = .ok p') (hq' : q.shortened = .ok q') :
    p.baseName false = q.baseName false ↔ p'.SameBase q' ∧ ¬p.SpelledOtherwise q := by
  obtain ⟨t, t', ht, ht', hpt⟩ := hp.shortened_type hp'
  obtain ⟨u, u', hu, hu', hqu⟩ := hq.shortened_type hq'
  have hbase : p.baseName false = q.baseName false ↔ t.sameBase false u = true := by
    rw [baseName, baseName, TypeExpr.baseOfText_eq ht, TypeExpr.baseOfText_eq hu,
      TypeExpr.sameBase, beq_iff_eq]
    rfl
  have hsame : p'.SameBase q' ↔ t'.name = u'.name := by
    simp [SameBase, hpt, hqu]
  have hspelled : p.SpelledOtherwise q ↔ t.SpelledOtherwise u := by
    simp [SpelledOtherwise, ht, hu]
  rw [hbase, hsame, hspelled]
  exact (TypeExpr.safe_of_parse ht).sameBase_false_iff (TypeExpr.safe_of_parse hu) ht' hu'

theorem map_baseName_false_eq_iff {as bs as' bs' : List Param} (ha : ∀ p ∈ as, p.Constructed)
    (hb : ∀ p ∈ bs, p.Constructed)
    (has : List.Forall₂ (fun p p' => p.shortened = .ok p') as as')
    (hbs : List.Forall₂ (fun p p' => p.shortened = .ok p') bs bs') :
    as.map (baseName false) = bs.map (baseName false) ↔
      List.Forall₂ SameBase as' bs' ∧ List.Forall₂ (fun p q => ¬p.SpelledOtherwise q) as bs := by
  induction has generalizing bs bs' with
  | nil => cases hbs <;> simp
  | cons hfirst hrest ih =>
    cases hbs with
    | nil => simp
    | cons hfirst' hrest' =>
      rw [List.forall_mem_cons] at ha hb
      rw [List.map_cons, List.map_cons, List.cons.injEq, List.forall₂_cons, List.forall₂_cons,
        ha.1.baseName_false_eq_iff hb.1 hfirst hfirst', ih ha.2 hb.2 hrest']
      exact and_and_and_comm

end Param

/-- Types agree by their short names exactly if their short types have one base name, unless their
short names are a built-in type in different letters, which leaves the short types one base name. So
do methods of one name, parameter by parameter. -/
theorem short_comparison_agrees_iff {t u : TypeExpr} {m n : Method} (ht : t.Constructed)
    (hu : u.Constructed) (hm : m.Constructed) (hn : n.Constructed) (hname : m.name = n.name) :
    (∃ t' u', t.shortened = .ok t' ∧ u.shortened = .ok u' ∧
      (t.sameBase false u = true ↔ t'.name = u'.name ∧ ¬t.SpelledOtherwise u) ∧
      (t.SpelledOtherwise u → t'.name = u'.name)) ∧
    ∃ ps qs answer, m.params.mapM Param.shortened = .ok ps ∧
      n.params.mapM Param.shortened = .ok qs ∧ m.agrees false n = .ok answer ∧
      (answer = true ↔ List.Forall₂ Param.SameBase ps qs ∧
        List.Forall₂ (fun p q => ¬p.SpelledOtherwise q) m.params n.params) := by
  constructor
  · obtain ⟨t', ht'⟩ := ht.safe.exists_shortened
    obtain ⟨u', hu'⟩ := hu.safe.exists_shortened
    exact ⟨t', u', ht', hu', ht.safe.sameBase_false_iff hu.safe ht' hu',
      ht.safe.name_eq_of_spelledOtherwise hu.safe ht' hu'⟩
  · have hshort {k : Method} (hk : k.Constructed) :
        ∃ ps, k.params.mapM Param.shortened = .ok ps :=
      exists_mapM_eq_ok fun p hp => by
        obtain ⟨-, -, q, -, -, hq, -⟩ := (hk p hp).exists_shortened
        exact ⟨q, hq⟩
    obtain ⟨ps, hps⟩ := hshort hm
    obtain ⟨qs, hqs⟩ := hshort hn
    refine ⟨ps, qs, _, hps, hqs, Method.agrees_eq_decide false hm hn, ?_⟩
    rw [decide_eq_true_iff, Method.comparedBy, Method.comparedBy, hname, Prod.mk.injEq,
      eq_self_iff_true, true_and]
    exact Param.map_baseName_false_eq_iff hm hn (mapM_eq_ok_iff.1 hps) (mapM_eq_ok_iff.1 hqs)

/-- A class with its namespace and without. The letters of its argument do not count. -/
theorem short_comparison_agrees_iff_namespaces :
    let t : TypeExpr := ⟨"java.util.Map", [⟨"java.lang.STRING", []⟩]⟩
    let u : TypeExpr := ⟨"Map", [⟨"string", []⟩]⟩
    let wrap (typeText : Text) : Method := ⟨"wrap", [⟨typeText, "it"⟩], Method.noValue, []⟩
    t.Constructed ∧ u.Constructed ∧
      (∃ t' u', t.shortened = .ok t' ∧ u.shortened = .ok u' ∧ t'.name = u'.name ∧
        t.sameBase false u = true) ∧
      (wrap t.render).Constructed ∧ (wrap u.render).Constructed ∧
      (wrap t.render).agrees false (wrap u.render) = .ok true ∧
      ∃ ps qs, (wrap t.render).params.mapM Param.shortened = .ok ps ∧
        (wrap u.render).params.mapM Param.shortened = .ok qs ∧
        List.Forall₂ Param.SameBase ps qs := by
  intro t u wrap
  have ht : TypeExpr.parse t.render = .ok t := eq_ok_of_toOption (by decide +kernel)
  have hu : TypeExpr.parse u.render = .ok u := eq_ok_of_toOption (by decide +kernel)
  have hwrap {type : TypeExpr} (h : TypeExpr.parse type.render = .ok type) :
      (wrap type.render).Constructed := by
    have hmake : Param.make type.render "it" = .ok ⟨type.render, "it"⟩ :=
      Param.make_eq_ok_iff.2 ⟨type, h, rfl⟩
    exact Method.constructed_of_made hmake rfl
  have hagrees : (wrap t.render).agrees false (wrap u.render) = .ok true :=
    eq_ok_of_toOption (by decide +kernel)
  have htmade := (TypeExpr.safe_of_parse ht).constructed
  have humade := (TypeExpr.safe_of_parse hu).constructed
  have hsame : t.sameBase false u = true := by decide +kernel
  obtain ⟨⟨t', u', ht', hu', hiff, -⟩, ps, qs, answer, hps, hqs, hanswer, hiffs⟩ :=
    short_comparison_agrees_iff htmade humade (hwrap ht) (hwrap hu) rfl
  rw [hagrees] at hanswer
  cases hanswer
  exact ⟨htmade, humade, ⟨t', u', ht', hu', (hiff.1 hsame).1, hsame⟩, hwrap ht, hwrap hu, hagrees,
    ps, qs, hps, hqs, (hiffs.1 rfl).1⟩

/-- A class that documentation names without its namespace is another one, though both short types
are the built-in type. -/
theorem qualified_built_in_stays_apart :
    let t : TypeExpr := ⟨"java.lang.String", []⟩
    let u : TypeExpr := ⟨"string", []⟩
    let wrap (typeText : Text) : Method := ⟨"wrap", [⟨typeText, "it"⟩], Method.noValue, []⟩
    TypeExpr.parse "java.lang.String" = .ok t ∧ TypeExpr.parse "String" = .ok u ∧
      t.shortened = .ok u ∧ u.shortened = .ok u ∧ t.sameBase false u = false ∧
      (wrap t.render).params.mapM Param.shortened = .ok (wrap u.render).params ∧
      (wrap u.render).params.mapM Param.shortened = .ok (wrap u.render).params ∧
      (wrap t.render).agrees false (wrap u.render) = .ok false := by
  intro t u wrap
  refine ⟨?_, ?_, ?_, ?_, by decide +kernel, ?_, ?_, ?_⟩ <;>
    exact eq_ok_of_toOption (by decide +kernel)

end ApiStubs
