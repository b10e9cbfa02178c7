import ApiStubs.Proofs.Distinct
import ApiStubs.Proofs.Documented.Section
import ApiStubs.Proofs.Documented.Store
import ApiStubs.Proofs.Merge.Fields

/-! What becomes of every field of a class, and what is reported of it. Whatever is left out of the
fields is not even looked up. -/

namespace ApiStubs

def ObservedClass.ownFields (c : ObservedClass) : List ObservedField :=
  Distinct.firstBy ObservedField.name (c.fields.filter fun f => !f.synthetic)

def ObservedField.ErasesTo (f : ObservedField) (erased : TypeExpr) : Prop :=
  ∃ type, f.type.toType = .ok type ∧ type.erased = .ok erased

theorem ObservedField.Readable.erasesTo {f : ObservedField} (h : f.Readable) :
    f.ErasesTo f.bare.type :=
  ⟨_, ObservedType.Readable.toType_eq h, (Merge.keeps_bare f).type_erased h⟩

namespace Merge

open Merging (RunsTo)

/-- The field that comes of an observed one, with what is reported of it. -/
inductive FieldOutcome (className : Text) (told : Option (Text × List DocumentedField))
    (f : ObservedField) : Field → List Diagnostic → Prop
  | observed {r : Field} (hplain : f.type.isGeneric = false) (hr : f.toField = .ok r) :
      FieldOutcome className told f r []
  | documented {page : Text} {entries : List DocumentedField} {d : DocumentedField}
      {type erased : TypeExpr} (hgeneric : f.type.isGeneric = true)
      (htold : told = some (page, entries)) (hd : entries.find? (·.name == f.name) = some d)
      (htype : TypeExpr.parse d.typeText = .ok type) (herased : f.ErasesTo erased)
      (hbase : type.name = erased.name) :
      FieldOutcome className told f ⟨f.name, type, Modifiers.normalize f.modifiers⟩ []
  | mismatched {page : Text} {entries : List DocumentedField} {d : DocumentedField}
      {documented : Field} {erased : TypeExpr} (hgeneric : f.type.isGeneric = true)
      (htold : told = some (page, entries)) (hd : entries.find? (·.name == f.name) = some d)
      (hdocumented : d.toField = .ok documented) (herased : f.ErasesTo erased)
      (hbase : documented.type.name ≠ erased.name) :
      FieldOutcome className told f ⟨f.name, erased, Modifiers.normalize f.modifiers⟩
        [mismatchedField className page documented
          ⟨f.name, erased, Modifiers.normalize f.modifiers⟩]
  | undocumented {page : Text} {entries : List DocumentedField} {erased : TypeExpr}
      (hgeneric : f.type.isGeneric = true) (htold : told = some (page, entries))
      (hd : entries.find? (·.name == f.name) = none) (herased : f.ErasesTo erased) :
      FieldOutcome className told f ⟨f.name, erased, Modifiers.normalize f.modifiers⟩
        [undocumentedField className page f.name]
  | alone {erased : TypeExpr} (hgeneric : f.type.isGeneric = true) (htold : told = none)
      (herased : f.ErasesTo erased) :
      FieldOutcome className told f ⟨f.name, erased, Modifiers.normalize f.modifiers⟩ []

variable {className : Text} {source : Lookup} {told : Option (Text × List DocumentedField)}
  {f : ObservedField} {fields : List ObservedField}

theorem FieldOutcome.name_eq {r : Field} {reports : List Diagnostic}
    (h : FieldOutcome className told f r reports) : r.name = f.name := by
  cases h with
  | observed _ hr =>
    obtain ⟨type, -, hreturn⟩ := bind_eq_ok_iff.1 hr
    cases hreturn
    rfl
  | _ => rfl

theorem toField_eq_ok_iff {d : DocumentedField} {r : Field} :
    d.toField = .ok r ↔ ∃ type, TypeExpr.parse d.typeText = .ok type ∧
      r = ⟨d.name, type, Modifiers.normalize d.modifiers⟩ := by
  rw [DocumentedField.toField, bind_eq_ok_iff]
  refine exists_congr fun type => and_congr_right fun _ => ?_
  exact ⟨fun h => (Except.ok.inj h).symm, fun h => congrArg Except.ok h.symm⟩

theorem resolveField_observed (className : Text) (h : f.Readable)
    (hplain : f.type.isGeneric = false) : resolveField className f = pure f.bare := by
  rw [resolveField, hplain, h.toField_eq]
  rfl

theorem chooseField_runs (source : Lookup) (page : Page) {entries : List DocumentedField}
    (className : Text) (hf : f.Readable) (hgeneric : f.type.isGeneric = true) {found : Option Field}
    (hfound : Option.Rel (fun d f => d.toField = .ok f) (entries.find? (·.name == f.name)) found) :
    ∃ r reports,
      RunsTo source (.ok r) reports (chooseField className f.bare (some (page.name, found))) ∧
        FieldOutcome className (some (page.name, entries)) f r reports := by
  generalize hd : entries.find? (·.name == f.name) = d? at hfound
  cases hfound with
  | none => exact ⟨_, _, .bind (.report _) (.pure _), .undocumented hgeneric rfl hd hf.erasesTo⟩
  | @some d documented hdocumented =>
    rw [chooseField]
    split_ifs with hbase
    · obtain ⟨type, htype, rfl⟩ := toField_eq_ok_iff.1 hdocumented
      have hname : d.name = f.name :=
        beq_iff_eq.1 (List.find?_some (p := fun d : DocumentedField => d.name == f.name) hd)
      have hnormal : Modifiers.normalize f.bare.modifiers = Modifiers.normalize f.modifiers :=
        Modifiers.normalize_normalize f.modifiers
      refine ⟨_, _, .pure _, ?_⟩
      rw [Field.withModifiers, hnormal, hname]
      exact .documented hgeneric rfl hd htype hf.erasesTo (beq_iff_eq.1 hbase)
    · exact ⟨_, _, .bind (.report _) (.pure _), .mismatched hgeneric rfl hd hdocumented hf.erasesTo
        fun heq => hbase (beq_iff_eq.2 heq)⟩

theorem resolveField_runs (className : Text) (hsource : source.fresh = source)
    (htold : source.Tells Page.ListsFields told) (hf : f.Readable) :
    ∃ r reports, RunsTo source (.ok r) reports (resolveField className f) ∧
      FieldOutcome className told f r reports := by
  cases hgeneric : f.type.isGeneric with
  | false =>
    rw [resolveField_observed className hf hgeneric]
    exact ⟨_, _, .pure _, .observed hgeneric hf.toField_eq⟩
  | true =>
    rw [resolveField, if_pos hgeneric]
    have hexpected : RunsTo source (.ok f.bare) [] (Merging.made (placeholder f)) :=
      .made (placeholder_eq hf)
    cases htold with
    | missing reason =>
      exact ⟨_, _, hexpected.bind ((RunsTo.ask_missing reason _).bind (.pure _)),
        .alone hgeneric rfl hf.erasesTo⟩
    | @found page entries hentries =>
      have hfresh : Page.ofData page.name page.data = page := Lookup.found.inj hsource
      obtain ⟨found, hanswer, hfound⟩ := Page.field?_of_lists page.name hentries f.name
      rw [hfresh] at hanswer
      obtain ⟨r, reports, hrun, houtcome⟩ := chooseField_runs (.found page) page className hf
        hgeneric hfound
      exact ⟨r, reports, hexpected.bind
        ((RunsTo.ask_ok (Page.steady_field? f.name) hanswer).bind hrun), houtcome⟩

theorem fieldsFrom_runs (className : Text) (taken : List Text) (hsource : source.fresh = source)
    (htold : source.Tells Page.ListsFields told) (hfields : ∀ f ∈ fields, f.Readable) :
    ∃ outs : List (Field × List Diagnostic),
      RunsTo source (.ok (outs.map Prod.fst)) (outs.flatMap Prod.snd)
        (fieldsFrom className taken fields) ∧
      List.Forall₂ (fun f out => FieldOutcome className told f out.1 out.2)
        (countedFields taken fields) outs := by
  induction fields generalizing taken with
  | nil => exact ⟨[], .pure [], .nil⟩
  | cons f rest ih =>
    obtain ⟨hf, hrest⟩ := List.forall_mem_cons.1 hfields
    rw [fieldsFrom, countedFields]
    split_ifs
    · exact ih taken hrest
    · obtain ⟨r, reports, hrun, houtcome⟩ := resolveField_runs className hsource htold hf
      obtain ⟨outs, hruns, houtcomes⟩ := ih (f.name :: taken) hrest
      refine ⟨(r, reports) :: outs, ?_, .cons houtcome houtcomes⟩
      have hall := hrun.bind
        (f := fun r => return r :: (← fieldsFrom className (f.name :: taken) rest))
        (hruns.bind (.pure (r :: outs.map Prod.fst)))
      rw [List.append_nil] at hall
      exact hall

/-- What is left out is not looked up either. -/
theorem fieldsFrom_countedFields (className : Text) (taken : List Text)
    (fields : List ObservedField) :
    fieldsFrom className taken (countedFields taken fields) =
      fieldsFrom className taken fields := by
  induction fields generalizing taken with
  | nil => rfl
  | cons f rest ih =>
    by_cases hskip : (f.synthetic || taken.contains f.name) = true
    · rw [countedFields, fieldsFrom, if_pos hskip, if_pos hskip, ih]
    · rw [countedFields, if_neg hskip, fieldsFrom, fieldsFrom, if_neg hskip, if_neg hskip, ih]

theorem countedFields_eq (taken : List Text) (fields : List ObservedField) :
    countedFields taken fields = Distinct.firstBy ObservedField.name
      (fields.filter fun f => !f.synthetic && !taken.contains f.name) := by
  induction fields generalizing taken with
  | nil => rfl
  | cons f rest ih =>
    rw [countedFields]
    by_cases hskip : (f.synthetic || taken.contains f.name) = true
    · rw [if_pos hskip, ih, List.filter_cons_of_neg]
      rw [← Bool.not_or, hskip]
      decide
    · rw [if_neg hskip, ih, List.filter_cons_of_pos, Distinct.firstBy_cons, List.filter_filter]
      · congr 3
        funext g
        rw [List.contains_cons, Bool.not_or, bne, Bool.and_left_comm]
      · rw [← Bool.not_or, Bool.eq_false_iff.2 hskip]
        rfl

theorem countedFields_nil (c : ObservedClass) : countedFields [] c.fields = c.ownFields := by
  rw [countedFields_eq, ObservedClass.ownFields]
  simp only [List.contains_nil, Bool.not_false, Bool.and_true]

end Merge

/-- The fields of a class are, name by name in the order of the class, what comes of the first field
of that name that is not synthetic, and what is reported is what comes of these fields, in the same
order. Other fields change nothing, not even what is looked up, and a field that is not generic asks
nothing of any page. -/
theorem fields_are_resolved_one_by_one {c : ObservedClass} (hc : c.Accepted) {source : Lookup}
    (hsource : source.Opened) {told : Option (Text × List DocumentedField)}
    (htold : source.Tells Page.ListsFields told) :
    (∃ outs after, (Merge.fields c).run source =
        ⟨.ok (outs.map Prod.fst), outs.flatMap Prod.snd, after⟩ ∧
      List.Forall₂ (fun f out => Merge.FieldOutcome c.name told f out.1 out.2) c.ownFields outs ∧
      (outs.map Prod.fst).map Field.name =
        ((c.fields.filter fun f => !f.synthetic).map ObservedField.name).eraseDups) ∧
    Merge.fields { c with fields := c.ownFields } = Merge.fields c ∧
    ∀ f ∈ c.fields, f.type.isGeneric = false →
      ∃ r, f.toField = .ok r ∧ Merge.resolveField c.name f = pure r := by
  have hreadable := hc.readable
  refine ⟨?_, ?_, fun f hf hplain => ?_⟩
  · obtain ⟨outs, hruns, houtcomes⟩ := Merge.fieldsFrom_runs c.name [] source.fresh_fresh
      htold.fresh hreadable.fields
    obtain ⟨after, -, hrun⟩ := hruns source hsource.sound.shows
    rw [Merge.countedFields_nil] at houtcomes
    refine ⟨outs, after, hrun, houtcomes, ?_⟩
    rw [← Distinct.map_firstBy, List.map_map, ← List.forall₂_eq_eq_eq, List.forall₂_map_left_iff,
      List.forall₂_map_right_iff]
    exact (houtcomes.imp fun _ _ houtcome => houtcome.name_eq).flip
  · rw [Merge.fields, Merge.fields, ← Merge.countedFields_nil, Merge.fieldsFrom_countedFields]
  · exact ⟨f.bare, (hreadable.fields f hf).toField_eq,
      Merge.resolveField_observed c.name (hreadable.fields f hf) hplain⟩

/-- A synthetic field before the first of its name, repetitions that are generic, a documented type
of another base, and a field that the page does not have. -/
theorem fields_are_resolved_one_by_one_repeated :
    let map : ObservedType := ⟨"java.util.Map", ["K", "V"]⟩
    let c : ObservedClass := ⟨"Box", [],
      [⟨"items", map, [], true⟩, ⟨"items", map, ["PUBLIC"], false⟩,
        ⟨"size", ⟨"int", []⟩, [], false⟩, ⟨"items", map, [], false⟩, ⟨"size", map, [], false⟩,
        ⟨"other", map, ["final"], false⟩, ⟨"absent", map, [], false⟩], []⟩
    let entries : List DocumentedField := [⟨"other", "Map<int>", []⟩,
      ⟨"items", " java.util.Map<String, int[]>", ["static"]⟩, ⟨"items", "Other", []⟩]
    let source : Lookup :=
      .found (.ofData "Box" [("fields", .arr (entries.map DocumentedField.toJson))])
    let erased : TypeExpr := ⟨"java.util.Map", []⟩
    c.Accepted ∧ source.Opened ∧ source.Tells Page.ListsFields (some ("Box", entries)) ∧
      ∃ outs after, (Merge.fields c).run source =
          ⟨.ok (outs.map Prod.fst), outs.flatMap Prod.snd, after⟩ ∧
        List.Forall₂ (fun f out => Merge.FieldOutcome c.name (some ("Box", entries)) f out.1 out.2)
          c.ownFields outs ∧
        outs.map Prod.fst =
          [⟨"items", ⟨"java.util.Map", [⟨"string", []⟩, ⟨"int[]", []⟩]⟩, ["public"]⟩,
            ⟨"size", ⟨"int", []⟩, []⟩, ⟨"other", erased, ["final"]⟩, ⟨"absent", erased, []⟩] ∧
        (outs.flatMap Prod.snd).map (fun d => (d.kind, d.member)) =
          [(.fieldMismatch, some (.ofString "other")),
            (.fieldUndocumented, some (.ofString "absent"))] := by
  intro map c entries source erased
  have hc : c.Accepted := ObservedClass.accepted_of_record (by decide +kernel)
  have hsource : source.Opened := .ofData _ _
  have hvalid : ∀ d ∈ entries,
      ((DocumentedField.check d.toJson).result "FieldEntry").toOption = some d := by
    decide +kernel
  have hreadable : ∀ d ∈ entries, ∃ r, d.toField.toOption = some r := by
    simp only [← Option.isSome_iff_exists]
    decide +kernel
  have htold : source.Tells Page.ListsFields (some ("Box", entries)) :=
    .found (.of_records (fun d hd => Checked.result_eq_ok_iff.1 (eq_ok_of_toOption (hvalid d hd)))
      fun d hd => (hreadable d hd).imp fun _ => eq_ok_of_toOption)
  obtain ⟨⟨outs, after, hrun, houtcomes, -⟩, -, -⟩ :=
    fields_are_resolved_one_by_one hc hsource htold
  have hresult := congrArg (fun trace => trace.result.toOption) hrun
  have hreports := congrArg (fun trace => trace.reports.map fun d => (d.kind, d.member)) hrun
  refine ⟨hc, hsource, htold, outs, after, hrun, houtcomes, ?_, hreports.symm.trans ?_⟩
  · exact Option.some.inj (hresult.symm.trans (by decide +kernel))
  · decide +kernel

end ApiStubs
