import ApiStubs.Proofs.Merge.Class
import ApiStubs.Proofs.Merge.ResolvedFields
import ApiStubs.Proofs.Merge.ResolvedMethods

/-! Pages with a section that cannot be read. Such a page fails the classes that put a question to
that section, and no others. -/

namespace ApiStubs

/-- Merging this class puts a question to that section of a page, if there is one. -/
def ObservedClass.Needs (c : ObservedClass) : Detail → Prop
  | .field => ∃ f ∈ c.ownFields, f.type.isGeneric = true
  | .method => ∃ m ∈ c.methods, m.synthetic = false

def ObservedClass.FailedBy (c : ObservedClass) (page : Page) (detail : Detail) : Prop :=
  c.Needs detail ∧ ¬Page.Valid page.data detail

namespace Merge

open Merging (RunsTo)

variable {source : Lookup} {page : Page} {fault : DetailFault} {c : ObservedClass}

section Fields

variable {f : ObservedField} {fields : List ObservedField}

theorem resolveField_fails (className : Text) (hf : f.Readable) (hgeneric : f.type.isGeneric = true)
    (hfault : (page.field? f.name).1 = .error fault) :
    RunsTo (.found page) (.error (.detail fault)) [] (resolveField className f) := by
  have hmade : RunsTo (.found page) (.ok f.bare) [] (Merging.made (placeholder f)) :=
    .made (placeholder_eq hf)
  rw [resolveField, if_pos hgeneric]
  exact hmade.bind (RunsTo.ask_error (Page.steady_field? f.name) hfault).bind_error

theorem fieldsFrom_fails (className : Text) (taken : List Text) (hfields : ∀ f ∈ fields, f.Readable)
    (hgeneric : ∃ f ∈ countedFields taken fields, f.type.isGeneric = true)
    (hfault : ∀ name, (page.field? name).1 = .error fault) :
    RunsTo (.found page) (.error (.detail fault)) [] (fieldsFrom className taken fields) := by
  induction fields generalizing taken with
  | nil =>
    obtain ⟨f, hf, -⟩ := hgeneric
    cases hf
  | cons f rest ih =>
    obtain ⟨hf, hrest⟩ := List.forall_mem_cons.1 hfields
    rw [countedFields] at hgeneric
    rw [fieldsFrom]
    split_ifs at hgeneric ⊢
    · exact ih taken hrest hgeneric
    · cases hfirst : f.type.isGeneric with
      | true => exact (resolveField_fails className hf hfirst (hfault f.name)).bind_error
      | false =>
        -- nothing is asked for the first field, so the failure lies further on
        have hlater : ∃ g ∈ countedFields (f.name :: taken) rest, g.type.isGeneric = true :=
          ((List.exists_mem_cons_iff _ _ _).1 hgeneric).resolve_left (by simp [hfirst])
        rw [resolveField_observed className hf hfirst]
        exact (RunsTo.pure f.bare).bind (ih _ hrest hlater).bind_error

theorem fieldsFrom_observed (className : Text) (taken : List Text)
    (hfields : ∀ f ∈ fields, f.Readable)
    (hplain : ∀ f ∈ countedFields taken fields, f.type.isGeneric = false) :
    RunsTo source (.ok ((countedFields taken fields).map ObservedField.bare)) []
      (fieldsFrom className taken fields) := by
  induction fields generalizing taken with
  | nil => exact .pure []
  | cons f rest ih =>
    obtain ⟨hf, hrest⟩ := List.forall_mem_cons.1 hfields
    rw [countedFields] at hplain ⊢
    rw [fieldsFrom]
    split_ifs at hplain ⊢
    · exact ih taken hrest hplain
    · obtain ⟨hfirst, hplain⟩ := List.forall_mem_cons.1 hplain
      rw [resolveField_observed className hf hfirst]
      exact (RunsTo.pure f.bare).bind ((ih _ hrest hplain).bind (.pure _))

theorem fields_run (hc : c.Readable) (h : ¬c.FailedBy page .field) :
    ∃ fields reports, RunsTo (.found page.fresh) (.ok fields) reports (Merge.fields c) := by
  by_cases hneeds : c.Needs .field
  · obtain ⟨entries, hentries⟩ := not_not.1 fun hnot => h ⟨hneeds, hnot⟩
    have htold : (Lookup.found page).Tells Page.ListsFields (some (page.name, entries)) :=
      .found hentries
    obtain ⟨outs, hruns, -⟩ :=
      fieldsFrom_runs c.name [] (Lookup.fresh_fresh (.found page)) htold.fresh hc.fields
    exact ⟨_, _, hruns⟩
  · refine ⟨_, _, fieldsFrom_observed c.name [] hc.fields fun f hf => ?_⟩
    rw [countedFields_nil] at hf
    exact Bool.eq_false_iff.2 fun hgeneric => hneeds ⟨f, hf, hgeneric⟩

theorem fields_fail (hc : c.Readable) (h : c.FailedBy page .field) :
    ∃ reason, RunsTo (.found page.fresh) (.error (.detail ⟨page.name, .field, reason⟩)) []
      (Merge.fields c) := by
  obtain ⟨hneeds, hnot⟩ := h
  rw [ObservedClass.Needs, ← countedFields_nil] at hneeds
  obtain ⟨reason, hfault⟩ := Page.field?_of_not_valid page.name hnot
  exact ⟨reason, fieldsFrom_fails c.name [] hc.fields hneeds hfault⟩

end Fields

section Methods

variable {m : ObservedMethod} {o : Method} {methods : List ObservedMethod}

theorem resolveMethod_fails (className : Text) (hm : Describes m o)
    (hfault : (page.methodsNamed m.name).1 = .error fault) :
    RunsTo (.found page) (.error (.detail fault)) [] (resolveMethod className m) := by
  have hmade : RunsTo (.found page) (.ok o) [] (Merging.made m.toMethod) := .made hm.made
  exact hmade.bind (RunsTo.ask_error (Page.steady_methodsNamed m.name) hfault).bind_error

theorem methodsFrom_fails (className : Text) (taken : List (Text × List Text))
    (hmethods : ∀ m ∈ methods, m.Readable) (hcounted : ∃ m ∈ methods, m.synthetic = false)
    (hfault : ∀ name, (page.methodsNamed name).1 = .error fault) :
    RunsTo (.found page) (.error (.detail fault)) [] (methodsFrom className taken methods) := by
  induction methods with
  | nil =>
    obtain ⟨m, hm, -⟩ := hcounted
    cases hm
  | cons m rest ih =>
    obtain ⟨hm, hrest⟩ := List.forall_mem_cons.1 hmethods
    rw [methodsFrom]
    split_ifs with hsynthetic
    · have hlater : ∃ m' ∈ rest, m'.synthetic = false :=
        ((List.exists_mem_cons_iff _ _ _).1 hcounted).resolve_left (by simp [hsynthetic])
      exact ih hrest hlater
    · obtain ⟨o, ho⟩ := exists_describes hm
      exact (resolveMethod_fails className ho (hfault m.name)).bind_error

theorem methodsFrom_synthetic (className : Text) (taken : List (Text × List Text))
    (h : ∀ m ∈ methods, m.synthetic = true) : methodsFrom className taken methods = pure [] := by
  induction methods with
  | nil => rfl
  | cons m rest ih =>
    obtain ⟨hm, hrest⟩ := List.forall_mem_cons.1 h
    rw [methodsFrom, if_pos hm, ih hrest]

theorem methods_run (hc : c.Readable) (h : ¬c.FailedBy page .method) :
    ∃ methods reports, RunsTo (.found page.fresh) (.ok methods) reports (Merge.methods c) := by
  by_cases hneeds : c.Needs .method
  · obtain ⟨entries, hentries⟩ := not_not.1 fun hnot => h ⟨hneeds, hnot⟩
    have htold : (Lookup.found page).Tells Page.ListsMethods (some (page.name, entries)) :=
      .found hentries
    obtain ⟨outs, hruns, -⟩ :=
      methodsFrom_runs c.name [] (Lookup.fresh_fresh (.found page)) htold.fresh hc.methods
    exact ⟨_, _, hruns⟩
  · have hsynthetic : ∀ m ∈ c.methods, m.synthetic = true := fun m hm =>
      (Bool.not_eq_false _).mp fun hcounted => hneeds ⟨m, hm, hcounted⟩
    rw [Merge.methods, methodsFrom_synthetic c.name [] hsynthetic]
    exact ⟨_, _, .pure []⟩

theorem methods_fail (hc : c.Readable) (h : c.FailedBy page .method) :
    ∃ reason, RunsTo (.found page.fresh) (.error (.detail ⟨page.name, .method, reason⟩)) []
      (Merge.methods c) := by
  obtain ⟨hneeds, hnot⟩ := h
  obtain ⟨reason, hfault⟩ := Page.methodsNamed_of_not_valid page.name hnot
  exact ⟨reason, methodsFrom_fails c.name [] hc.methods hneeds hfault⟩

end Methods

theorem wholeClass_fails_by_fields (hc : c.Readable) (h : c.FailedBy page .field) :
    ∃ reason, RunsTo (.found page.fresh) (.error (.detail ⟨page.name, .field, reason⟩)) []
      (wholeClass c) := by
  obtain ⟨reason, hruns⟩ := fields_fail hc h
  exact ⟨reason, hruns.bind_error⟩

theorem wholeClass_fails_by_methods (hc : c.Readable) (hfields : ¬c.FailedBy page .field)
    (h : c.FailedBy page .method) :
    ∃ reason reports, RunsTo (.found page.fresh) (.error (.detail ⟨page.name, .method, reason⟩))
      reports (wholeClass c) := by
  obtain ⟨fields, reports, hfields⟩ := fields_run hc hfields
  obtain ⟨reason, hruns⟩ := methods_fail hc h
  exact ⟨reason, _, hfields.bind hruns.bind_error⟩

theorem wholeClass_runs (hc : c.Readable) (hfields : ¬c.FailedBy page .field)
    (hmethods : ¬c.FailedBy page .method) :
    ∃ stub reports, RunsTo (.found page.fresh) (.ok stub) reports (wholeClass c) := by
  obtain ⟨fields, reports, hfields⟩ := fields_run hc hfields
  obtain ⟨methods, more, hmethods⟩ := methods_run hc hmethods
  -- the check of the whole class finds nothing repeated
  obtain ⟨observed, hobserved⟩ := exists_observed hc
  have hfresh : (Lookup.found page.fresh).Shows (.found page.fresh) := .refl rfl
  have hof := (fields_reads hc).of_ok hfresh (hfields.result_eq hfresh)
  have hchosen := (methodsFrom_reads c.name [] hfresh.sound hobserved).of_ok hfresh
    (hmethods.result_eq hfresh)
  exact ⟨_, _, hfields.bind (hmethods.bind
    (.made (ClassStub.make_eq_ok hof.nodup hchosen.nodup)))⟩

theorem exists_wholeClass_missing (hc : c.Readable) (reason : Text) :
    ∃ stub, ((wholeClass c).run (.missing reason)).result = .ok stub := by
  obtain ⟨observed, hobserved⟩ := exists_observed hc
  have hnone : (Lookup.missing reason).Sound := trivial
  obtain ⟨stub, hstub, -⟩ := (wholeClass_reads hnone hc hobserved).exists_ok
  exact ⟨stub, hstub⟩

end Merge

/-- A page fails a class exactly where it has a section that cannot be read and that the class
needs: the fields for the sake of a generic field that is the first of its name, the methods for the
sake of any method at all, synthetic ones not counted. The fields fail first. Without a page nothing
fails. -/
theorem malformed_section_fails_those_in_need {c : ObservedClass} (hc : c.Accepted) {page : Page}
    (hpage : page.Opened) :
    let result := ((Merge.wholeClass c).run (.found page)).result
    ((∃ fault, result = .error fault) ↔ c.FailedBy page .field ∨ c.FailedBy page .method) ∧
      (c.FailedBy page .field → ∃ reason, result = .error (.detail ⟨page.name, .field, reason⟩)) ∧
      (¬c.FailedBy page .field → c.FailedBy page .method →
        ∃ reason, result = .error (.detail ⟨page.name, .method, reason⟩)) ∧
      ∀ reason, ∃ stub, ((Merge.wholeClass c).run (.missing reason)).result = .ok stub := by
  intro result
  have hreadable := hc.readable
  have hshows : (Lookup.found page.fresh).Shows (.found page) :=
    Lookup.Sound.shows (l := .found page) hpage.sound
  have hfield : c.FailedBy page .field →
      ∃ reason, result = .error (.detail ⟨page.name, .field, reason⟩) := by
    intro hfailed
    obtain ⟨reason, hruns⟩ := Merge.wholeClass_fails_by_fields hreadable hfailed
    exact ⟨reason, hruns.result_eq hshows⟩
  have hmethod : ¬c.FailedBy page .field → c.FailedBy page .method →
      ∃ reason, result = .error (.detail ⟨page.name, .method, reason⟩) := by
    intro hfields hfailed
    obtain ⟨reason, reports, hruns⟩ :=
      Merge.wholeClass_fails_by_methods hreadable hfields hfailed
    exact ⟨reason, hruns.result_eq hshows⟩
  refine ⟨⟨?_, ?_⟩, hfield, hmethod, Merge.exists_wholeClass_missing hreadable⟩
  · rintro ⟨fault, hfault⟩
    by_contra hneither
    obtain ⟨hfields, hmethods⟩ := not_or.1 hneither
    obtain ⟨stub, reports, hruns⟩ := Merge.wholeClass_runs hreadable hfields hmethods
    cases hfault.symm.trans (hruns.result_eq hshows)
  · intro hfailed
    by_cases hfields : c.FailedBy page .field
    · obtain ⟨reason, hreason⟩ := hfield hfields
      exact ⟨_, hreason⟩
    · obtain ⟨reason, hreason⟩ := hmethod hfields (hfailed.resolve_left hfields)
      exact ⟨_, hreason⟩

/-- Nothing can be read of this page. One class has a generic field behind a plain one of the same
name and is failed by its method, another has it behind a synthetic one and is failed by that field,
and a third has no method but a synthetic one. -/
theorem malformed_section_fails_those_in_need_hidden :
    let map : ObservedType := ⟨"java.util.Map", ["K", "V"]⟩
    let plain : ObservedField := ⟨"a", ⟨"int", []⟩, [], false⟩
    let hidden : ObservedField := ⟨"a", map, [], false⟩
    let method : ObservedMethod := ⟨"m", [], ⟨"void", []⟩, [], false⟩
    let first : ObservedClass := ⟨"A", [], [plain, hidden], [method]⟩
    let second : ObservedClass := ⟨"A", [], [{ plain with synthetic := true }, hidden], [method]⟩
    let third : ObservedClass := ⟨"A", [], [plain, hidden], [{ method with synthetic := true }]⟩
    let page : Page := .ofData "P"
      [("fields", .arr [.obj [("name", .str "b"), ("type", .str " ")]]), ("methods", .str "none")]
    let result := fun c : ObservedClass => ((Merge.wholeClass c).run (.found page)).result
    first.Accepted ∧ second.Accepted ∧ third.Accepted ∧ page.Opened ∧
      (∃ reason, result first = .error (.detail ⟨"P", .method, reason⟩)) ∧
      (∃ reason, result second = .error (.detail ⟨"P", .field, reason⟩)) ∧
      (∃ stub, result third = .ok stub) ∧
      ∀ reason, ∃ stub, ((Merge.wholeClass second).run (.missing reason)).result = .ok stub := by
  intro map plain hidden method first second third page result
  have hfirst : first.Accepted := ObservedClass.accepted_of_record (by decide +kernel)
  have hsecond : second.Accepted := ObservedClass.accepted_of_record (by decide +kernel)
  have hthird : third.Accepted := ObservedClass.accepted_of_record (by decide +kernel)
  have hpage : page.Opened := .ofData _ _
  have hfields : ¬Page.Valid page.data .field := by
    rintro ⟨found, hfound⟩
    obtain ⟨made, hread, -⟩ := Page.exists_readFields hfound
    have hnone : (Page.readFields page.data).toOption = none := by decide +kernel
    rw [hread] at hnone
    cases hnone
  have hmethods : ¬Page.Valid page.data .method := by
    rintro ⟨found, hfound⟩
    obtain ⟨made, hread, -⟩ := Page.exists_readMethods hfound
    have hnone : (Page.readMethods page.data).toOption = none := by decide +kernel
    rw [hread] at hnone
    cases hnone
  have hplain : ∀ c : ObservedClass, c.fields = [plain, hidden] → ¬c.FailedBy page .field := by
    rintro c hc ⟨⟨f, hf, hgeneric⟩, -⟩
    have hown : c.ownFields = [plain] := by
      rw [ObservedClass.ownFields, hc]
      decide +kernel
    rw [hown, List.mem_singleton] at hf
    cases hf
    cases hgeneric
  obtain ⟨-, -, hfailed, -⟩ := malformed_section_fails_those_in_need hfirst hpage
  obtain ⟨-, hhidden, -, hmissing⟩ := malformed_section_fails_those_in_need hsecond hpage
  obtain ⟨hthird', -, -, -⟩ := malformed_section_fails_those_in_need hthird hpage
  refine ⟨hfirst, hsecond, hthird, hpage, hfailed (hplain first rfl) ⟨⟨method, ?_, rfl⟩, hmethods⟩,
    hhidden ⟨⟨hidden, ?_, rfl⟩, hfields⟩, ?_, hmissing⟩
  · exact List.mem_singleton_self _
  · decide +kernel
  · cases hresult : result third with
    | ok stub => exact ⟨stub, rfl⟩
    | error fault =>
      have hsynthetic : ¬third.FailedBy page .method := by
        rintro ⟨⟨m, hm, hcounted⟩, -⟩
        cases List.mem_singleton.1 hm
        cases hcounted
      exact absurd (hthird'.1 ⟨fault, hresult⟩) (not_or.2 ⟨hplain third rfl, hsynthetic⟩)

end ApiStubs
