import ApiStubs.Proofs.Documented.Section
import ApiStubs.Proofs.Documented.Store
import ApiStubs.Proofs.Merge.Methods

/-! What becomes of every method of a class, and what is reported of it. No overload is lost, though
methods that come to the same signature are one. -/

namespace ApiStubs

structure DocumentedMethod.Matches (d : DocumentedMethod) (o : Method) : Prop where
  name : d.name = o.name
  params : List.Forall₂ Param.SameBase d.params o.params

theorem DocumentedMethod.matches_iff {d : DocumentedMethod} {r o : Method}
    (hd : d.toMethod = .ok r) (hr : r.Constructed) (ho : o.Constructed) :
    d.Matches o ↔ Method.erase (r.signature true) = Method.erase (o.signature true) := by
  have hparams := params_of_toMethod hd
  rw [Method.erase_signature, Method.erase_signature, Prod.mk.injEq, name_of_toMethod hd,
    ← Param.forall₂_sameBase_iff hr ho, hparams]
  exact ⟨fun h => ⟨h.name, h.params⟩, fun h => ⟨h.1, h.2⟩⟩

theorem first_of_find? {ε α : Type} {R : ε → α → Prop} {P : ε → Prop} {q : α → Bool}
    {entries : List ε} {made : List α} (h : List.Forall₂ R entries made)
    (hpq : ∀ entry a, a ∈ made → R entry a → (P entry ↔ q a = true)) :
    (∀ a, made.find? q = some a → ∃ before entry after, entries = before ++ entry :: after ∧
      R entry a ∧ P entry ∧ ∀ e ∈ before, ¬P e) ∧
    (made.find? q = none → ∀ e ∈ entries, ¬P e) := by
  induction h with
  | nil => exact ⟨nofun, fun _ => nofun⟩
  | @cons entry a entries made ha _ ih =>
    obtain ⟨ihsome, ihnone⟩ := ih fun e b hb => hpq e b (List.mem_cons_of_mem _ hb)
    have hiff := hpq entry a List.mem_cons_self ha
    by_cases hq : q a = true
    · rw [List.find?_cons_of_pos hq]
      refine ⟨fun b hb => ?_, nofun⟩
      cases hb
      exact ⟨[], entry, entries, rfl, ha, hiff.2 hq, nofun⟩
    · rw [List.find?_cons_of_neg hq]
      have hnot : ¬P entry := fun hp => hq (hiff.1 hp)
      refine ⟨fun b hb => ?_, fun hnone => List.forall_mem_cons.2 ⟨hnot, ihnone hnone⟩⟩
      obtain ⟨before, e, after, rfl, he, hp, hfirst⟩ := ihsome b hb
      exact ⟨entry :: before, e, after, rfl, he, hp, List.forall_mem_cons.2 ⟨hnot, hfirst⟩⟩

namespace Merge

open Merging (RunsTo)

/-- The method that comes of an observed one, with what is reported of it. -/
inductive MethodOutcome (className : Text) (told : Option (Text × List DocumentedMethod))
    (m : ObservedMethod) : Method → List Diagnostic → Prop
  | documented {page : Text} {before after : List DocumentedMethod} {d : DocumentedMethod}
      {o r : Method} (htold : told = some (page, before ++ d :: after)) (ho : m.toMethod = .ok o)
      (hd : d.Matches o) (hfirst : ∀ e ∈ before, ¬e.Matches o) (hr : d.toMethod = .ok r) :
      MethodOutcome className told m r []
  | undocumented {page : Text} {entries : List DocumentedMethod} {o : Method}
      (htold : told = some (page, entries)) (ho : m.toMethod = .ok o)
      (hnone : ∀ e ∈ entries, ¬e.Matches o) :
      MethodOutcome className told m o [undocumentedMethod className page m.name]
  | alone {o : Method} (htold : told = none) (ho : m.toMethod = .ok o) :
      MethodOutcome className told m o []

variable {className : Text} {source : Lookup} {told : Option (Text × List DocumentedMethod)}
  {m : ObservedMethod} {o : Method} {methods : List ObservedMethod}

theorem chooseMethod_runs (source : Lookup) {page : Page} {entries : List DocumentedMethod}
    {made : List Method} (className : Text) (hm : Describes m o)
    (hread : Page.readMethods page.data = .ok made)
    (hmade : List.Forall₂ (fun d r => d.toMethod = .ok r) entries made) :
    ∃ r reports, RunsTo source (.ok r) reports (chooseMethod className o
        (some (page.name, made.filter (·.name == m.name)))) ∧
      MethodOutcome className (some (page.name, entries)) m r reports := by
  have hconstructed := Page.constructed_of_readMethods hread
  have hfind : o.findMatch? true (made.filter (·.name == m.name)) = .ok (made.find? fun r =>
      Method.erase (r.signature true) = Method.erase (o.signature true)) := by
    have hnamed := @find?_named made (Method.erase (o.signature true))
    rw [show (Method.erase (o.signature true)).1 = m.name from hm.name] at hnamed
    rw [Method.findMatch?_eq hm.constructed fun r hr => hconstructed r (List.mem_filter.1 hr).1,
      hnamed]
  obtain ⟨hsome, hnone⟩ := first_of_find?
    (q := fun r => decide (Method.erase (r.signature true) = Method.erase (o.signature true)))
    hmade fun d r hr hd => (DocumentedMethod.matches_iff hd (hconstructed r hr)
      hm.constructed).trans decide_eq_true_iff.symm
  rw [chooseMethod]
  cases hfound : made.find? fun r =>
      decide (Method.erase (r.signature true) = Method.erase (o.signature true)) with
  | some r =>
    obtain ⟨before, d, after, rfl, hr, hd, hfirst⟩ := hsome r hfound
    exact ⟨_, _, (RunsTo.made (hfind.trans (congrArg _ hfound))).bind (.pure r),
      .documented rfl hm.made hd hfirst hr⟩
  | none =>
    refine ⟨_, _, (RunsTo.made (hfind.trans (congrArg _ hfound))).bind
      ((RunsTo.report _).bind (.pure o)), ?_⟩
    rw [hm.name]
    exact .undocumented rfl hm.made (hnone hfound)

theorem resolveMethod_runs (className : Text) (hsource : source.fresh = source)
    (htold : source.Tells Page.ListsMethods told) (hm : Describes m o) :
    ∃ r reports, RunsTo source (.ok r) reports (resolveMethod className m) ∧
      MethodOutcome className told m r reports := by
  have hobserved : RunsTo source (.ok o) [] (Merging.made m.toMethod) := .made hm.made
  cases htold with
  | missing reason =>
    exact ⟨_, _, hobserved.bind ((RunsTo.ask_missing reason _).bind (.pure o)),
      .alone rfl hm.made⟩
  | @found page entries hentries =>
    obtain ⟨made, hread, hmade⟩ := Page.exists_readMethods hentries
    have hfresh : Page.ofData page.name page.data = page := Lookup.found.inj hsource
    have hanswer : (page.methodsNamed m.name).1 = .ok (made.filter (·.name == m.name)) := by
      rw [← hfresh, Page.answer_methodsNamed, Page.methods_ofData, hread]
      rfl
    obtain ⟨r, reports, hrun, houtcome⟩ :=
      chooseMethod_runs (.found page) className hm hread hmade
    exact ⟨r, reports, hobserved.bind
      ((RunsTo.ask_ok (Page.steady_methodsNamed m.name) hanswer).bind hrun), houtcome⟩

theorem methodsFrom_runs (className : Text) (taken : List (Text × List Text))
    (hsource : source.fresh = source) (htold : source.Tells Page.ListsMethods told)
    (hmethods : ∀ m ∈ methods, m.Readable) :
    ∃ outs : List (Method × List Diagnostic),
      RunsTo source
        (.ok (Distinct.firstBy (Method.signature true)
          ((outs.map Prod.fst).filter fun r => !taken.contains (r.signature true))))
        (outs.flatMap Prod.snd) (methodsFrom className taken methods) ∧
      List.Forall₂ (fun m out => MethodOutcome className told m out.1 out.2)
        (countedMethods methods) outs := by
  -- `taken` grows with every method that is kept, so it is not fixed in the induction
  induction methods generalizing taken with
  | nil => exact ⟨[], .pure [], .nil⟩
  | cons m rest ih =>
    obtain ⟨hreadable, hrest⟩ := List.forall_mem_cons.1 hmethods
    rw [methodsFrom]
    split_ifs with hsynthetic
    · have hcounted : countedMethods (m :: rest) = countedMethods rest := by
        simp [countedMethods, hsynthetic]
      rw [hcounted]
      exact ih taken hrest
    · have hcounted : countedMethods (m :: rest) = m :: countedMethods rest := by
        simp [countedMethods, hsynthetic]
      rw [hcounted]
      obtain ⟨o, hm⟩ := exists_describes hreadable
      obtain ⟨r, reports, hrun, houtcome⟩ := resolveMethod_runs className hsource htold hm
      by_cases htaken : taken.contains (r.signature true) = true
      · obtain ⟨outs, hruns, houtcomes⟩ := ih taken hrest
        refine ⟨(r, reports) :: outs, hrun.bind ?_, .cons houtcome houtcomes⟩
        dsimp only
        rw [if_pos htaken, List.map_cons, List.filter_cons_of_neg (by simpa using htaken)]
        exact hruns
      · obtain ⟨outs, hruns, houtcomes⟩ := ih (r.signature true :: taken) hrest
        refine ⟨(r, reports) :: outs, hrun.bind ?_, .cons houtcome houtcomes⟩
        have hleft : (outs.map Prod.fst).filter (fun b => b.signature true != r.signature true &&
            !taken.contains (b.signature true)) =
              (outs.map Prod.fst).filter fun b =>
                !(r.signature true :: taken).contains (b.signature true) := by
          congr 1
          funext b
          rw [List.contains_cons, Bool.not_or, bne]
        have hall := hruns.bind (f := fun rs => pure (r :: rs)) (.pure _)
        rw [List.append_nil] at hall
        dsimp only
        rw [if_neg htaken, List.map_cons, List.filter_cons_of_pos (by simpa using htaken),
          Distinct.firstBy_cons, List.filter_filter, hleft]
        exact hall

/-- Only what is made of a documented method of the same erased signature comes in its place. -/
theorem MethodOutcome.erase_eq {r : Method} {reports : List Diagnostic} (hm : Describes m o)
    (htold : source.Tells Page.ListsMethods told)
    (h : MethodOutcome className told m r reports) :
    r.Constructed ∧ Method.erase (r.signature true) = Method.erase (o.signature true) := by
  cases h with
  | @documented page before after d o' r heq ho hd hfirst hr =>
    rw [hm.made] at ho
    cases ho
    cases htold with
    | missing reason => cases heq
    | @found p entries hentries =>
      cases heq
      obtain ⟨made, hread, hmade⟩ := Page.exists_readMethods hentries
      obtain ⟨r', hmem, hr'⟩ := exists_of_mem_forall₂ hmade.flip List.mem_append_cons_self
      cases Except.ok.inj (hr.symm.trans hr')
      have hconstructed := Page.constructed_of_readMethods hread r hmem
      exact ⟨hconstructed, (DocumentedMethod.matches_iff hr hconstructed hm.constructed).1 hd⟩
  | undocumented _ ho _ =>
    rw [hm.made] at ho
    cases ho
    exact ⟨hm.constructed, rfl⟩
  | alone _ ho =>
    rw [hm.made] at ho
    cases ho
    exact ⟨hm.constructed, rfl⟩

theorem exists_agreeing {outs : List (Method × List Diagnostic)}
    (hmethods : ∀ m ∈ methods, m.Readable) (htold : source.Tells Page.ListsMethods told)
    (houtcomes : List.Forall₂ (fun m out => MethodOutcome className told m out.1 out.2)
      methods outs) {r : Method} (hr : r ∈ outs.map Prod.fst) :
    r.Constructed ∧ ∃ m ∈ methods, ∃ o, m.toMethod = .ok o ∧ r.agrees true o = .ok true := by
  obtain ⟨out, hout, rfl⟩ := List.mem_map.1 hr
  obtain ⟨m, hm, houtcome⟩ := exists_of_mem_forall₂ houtcomes hout
  obtain ⟨o, ho⟩ := exists_describes (hmethods m hm)
  obtain ⟨hconstructed, herase⟩ := houtcome.erase_eq ho htold
  exact ⟨hconstructed, m, hm, o, ho.made, (Method.agrees_eq hconstructed ho.constructed).trans
    (congrArg Except.ok (decide_eq_true herase))⟩

end Merge

/-- The methods of a class are what comes of those that are not synthetic, one by one in the order
of the class, and of several of one signature the first; what is reported is reported for every
one of them, in the same order. No two have one signature, each method of the class agrees with one
that is left, and each that is left with one of the class. -/
theorem methods_are_resolved_one_by_one {c : ObservedClass} (hc : c.Accepted) {source : Lookup}
    (hsource : source.Opened) {told : Option (Text × List DocumentedMethod)}
    (htold : source.Tells Page.ListsMethods told) :
    ∃ outs methods after,
      (Merge.methods c).run source = ⟨.ok methods, outs.flatMap Prod.snd, after⟩ ∧
      List.Forall₂ (fun m out => Merge.MethodOutcome c.name told m out.1 out.2)
        (c.methods.filter fun m => !m.synthetic) outs ∧
      methods = Distinct.firstBy (Method.signature true) (outs.map Prod.fst) ∧
      (methods.map (Method.signature true)).Nodup ∧
      (∀ m ∈ c.methods, m.synthetic = false →
        ∃ o, m.toMethod = .ok o ∧ ∃ r ∈ methods, o.agrees true r = .ok true) ∧
      ∀ r ∈ methods, ∃ m ∈ c.methods, m.synthetic = false ∧
        ∃ o, m.toMethod = .ok o ∧ r.agrees true o = .ok true := by
  obtain ⟨outs, hruns, houtcomes⟩ := Merge.methodsFrom_runs c.name [] source.fresh_fresh
    htold.fresh hc.readable.methods
  obtain ⟨after, -, hrun⟩ := hruns source hsource.sound.shows
  simp only [List.contains_nil, Bool.not_false, List.filter_true] at hrun
  have hcounted : ∀ m ∈ Merge.countedMethods c.methods, m ∈ c.methods ∧ m.synthetic = false := by
    intro m hm
    obtain ⟨hmem, hsynthetic⟩ := List.mem_filter.1 hm
    exact ⟨hmem, by simpa using hsynthetic⟩
  have hreadable : ∀ m ∈ Merge.countedMethods c.methods, m.Readable :=
    fun m hm => hc.readable.methods m (hcounted m hm).1
  refine ⟨outs, _, after, hrun, houtcomes, rfl, Distinct.nodup_map_firstBy _ _,
    fun m hm hsynthetic => ?_, fun r hr => ?_⟩
  · have hm : m ∈ Merge.countedMethods c.methods :=
      List.mem_filter.2 ⟨hm, by rw [hsynthetic, Bool.not_false]⟩
    obtain ⟨o, ho⟩ := Merge.exists_describes (hreadable m hm)
    obtain ⟨out, hout, houtcome⟩ := exists_of_mem_forall₂ houtcomes.flip hm
    obtain ⟨-, herase⟩ := houtcome.erase_eq ho htold
    -- what comes of the method may be left out for another of the same signature
    obtain ⟨r, hr, hsignature⟩ : ∃ r ∈ Distinct.firstBy (Method.signature true)
        (outs.map Prod.fst), r.signature true = out.1.signature true :=
      Distinct.exists_mem_firstBy (List.mem_map_of_mem hout)
    obtain ⟨hconstructed, -⟩ :=
      Merge.exists_agreeing hreadable htold houtcomes (Distinct.mem_of_mem_firstBy hr)
    have hsame : Method.erase (o.signature true) = Method.erase (r.signature true) := by
      rw [hsignature, herase]
    exact ⟨o, ho.made, r, hr, (Method.agrees_eq ho.constructed hconstructed).trans
      (congrArg Except.ok (decide_eq_true hsame))⟩
  · obtain ⟨-, m, hm, hagrees⟩ :=
      Merge.exists_agreeing hreadable htold houtcomes (Distinct.mem_of_mem_firstBy hr)
    exact ⟨m, (hcounted m hm).1, (hcounted m hm).2, hagrees⟩

/-- Two methods that come to one documented overload, of which the page has another, two that the
page does not have and that are one, and a synthetic one. -/
theorem methods_are_resolved_one_by_one_overloads :
    let list : ObservedType := ⟨"java.util.List", ["E"]⟩
    let int : ObservedType := ⟨"int", []⟩
    let c : ObservedClass := ⟨"Box", [], [],
      [⟨"put", [⟨list, "p0"⟩], ⟨"void", []⟩, ["public"], false⟩,
        ⟨"get", [⟨int, "a"⟩], ⟨"boolean", []⟩, ["FINAL"], false⟩, ⟨"put", [], int, [], true⟩,
        ⟨"put", [⟨list, "p1"⟩], int, [], false⟩, ⟨"get", [⟨int, "b"⟩], int, [], false⟩,
        ⟨"put", [⟨int, "p2"⟩], int, [], false⟩]⟩
    let entries : List DocumentedMethod := [⟨"get", [⟨"long", "at"⟩], "int", []⟩,
      ⟨"put", [⟨"java.util.List<T>", "_end"⟩], " boolean ", ["PUBLIC"]⟩,
      ⟨"put", [⟨"java.util.List", "all"⟩], "void", []⟩, ⟨"put", [⟨"int", "one"⟩], "void", []⟩]
    let source : Lookup :=
      .found (.ofData "Box" [("methods", .arr (entries.map DocumentedMethod.toJson))])
    c.Accepted ∧ source.Opened ∧ source.Tells Page.ListsMethods (some ("Box", entries)) ∧
      ∃ outs methods after,
        (Merge.methods c).run source = ⟨.ok methods, outs.flatMap Prod.snd, after⟩ ∧
        List.Forall₂ (fun m out => Merge.MethodOutcome c.name (some ("Box", entries)) m out.1 out.2)
          (c.methods.filter fun m => !m.synthetic) outs ∧
        methods =
          [⟨"put", [⟨"java.util.List<T>", "_end"⟩], ⟨"boolean", []⟩, ["public"]⟩,
            ⟨"get", [⟨"int", "a"⟩], ⟨"boolean", []⟩, ["final"]⟩,
            ⟨"put", [⟨"int", "one"⟩], ⟨"void", []⟩, []⟩] ∧
        (outs.flatMap Prod.snd).map (fun d => (d.kind, d.member)) =
          [(.methodUndocumented, some (.ofString "get")),
            (.methodUndocumented, some (.ofString "get"))] := by
  intro list int c entries source
  have hc : c.Accepted := ObservedClass.accepted_of_record (by decide +kernel)
  have hsource : source.Opened := .ofData _ _
  have hvalid : ∀ d ∈ entries,
      ((DocumentedMethod.check d.toJson).result "MethodEntry").toOption = some d := by
    decide +kernel
  have hreadable : ∀ d ∈ entries, ∃ r, d.toMethod.toOption = some r := by
    simp only [← Option.isSome_iff_exists]
    decide +kernel
  have htold : source.Tells Page.ListsMethods (some ("Box", entries)) :=
    .found (.of_records (fun d hd => Checked.result_eq_ok_iff.1 (eq_ok_of_toOption (hvalid d hd)))
      fun d hd => (hreadable d hd).imp fun _ => eq_ok_of_toOption)
  obtain ⟨outs, methods, after, hrun, houtcomes, -, -, -, -⟩ :=
    methods_are_resolved_one_by_one hc hsource htold
  have hresult := congrArg (fun trace => trace.result.toOption) hrun
  have hreports := congrArg (fun trace => trace.reports.map fun d => (d.kind, d.member)) hrun
  refine ⟨hc, hsource, htold, outs, methods, after, hrun, houtcomes, ?_, hreports.symm.trans ?_⟩
  · exact Option.some.inj (hresult.symm.trans (by decide +kernel))
  · decide +kernel

end ApiStubs
