import ApiStubs.Proofs.Batch.Places

/-! What runs do with exclusions. A run checks the names of the classes in turn, and nothing but the
answers matters for what becomes of them. So entries are used up by a run as they are by the checks,
and where there are entries enough it is the same whether they are used up. -/

namespace ApiStubs

namespace Source

open Batch

variable {σ κ ε : Type} {source : Source σ κ ε} {c : ObservedClass} {classes : List ObservedClass}
  {before : Exclusions × Option σ} {state : Option σ}

def visitGiven (source : Source σ κ ε) (excluded : Bool) (c : ObservedClass) :
    Traced (Option σ) ε Outcome :=
  if excluded then do
    Traced.report (excludedReport c.name)
    return .excluded
  else source.compileClass c

theorem visit_run (source : Source σ κ ε) (c : ObservedClass) (e : Exclusions)
    (state : Option σ) :
    (source.visit c).run (e, state) =
      ⟨((source.visitGiven (e.check c.name).1 c).run state).result,
        ((source.visitGiven (e.check c.name).1 c).run state).reports,
        ((e.check c.name).2, ((source.visitGiven (e.check c.name).1 c).run state).state)⟩ := by
  have hexclude := @exclude_run σ ε c.name (e, state)
  rw [visit, Traced.bind_run_ok _ hexclude]
  cases (e.check c.name).1 <;> rfl

theorem visitAll_congr {e₁ e₂ : Exclusions}
    (h : e₁.answers (classes.map ObservedClass.name) =
      e₂.answers (classes.map ObservedClass.name)) :
    ((source.visitAll classes).run (e₁, state)).result =
      ((source.visitAll classes).run (e₂, state)).result := by
  induction classes generalizing e₁ e₂ state with
  | nil => rfl
  | cons c rest ih =>
    rw [List.map_cons, Exclusions.answers, Exclusions.answers, List.cons.injEq] at h
    have hanswer : (e₁.check c.name).1 = (e₂.check c.name).1 := (Prod.mk.inj h.1).2
    have hrun₁ := visit_run source c e₁ state
    have hrun₂ := visit_run source c e₂ state
    rw [hanswer] at hrun₁
    rcases hgiven : (source.visitGiven (e₂.check c.name).1 c).run state with
      ⟨cause | outcome, reports, state'⟩
    · rw [hgiven] at hrun₁ hrun₂
      rw [visitAll, Traced.bind_run_error _ hrun₁, Traced.bind_run_error _ hrun₂]
    · rw [hgiven] at hrun₁ hrun₂
      rw [visitAll, Traced.bind_run_ok _ hrun₁, Traced.bind_run_ok _ hrun₂, Traced.bind_pure_run,
        Traced.bind_pure_run, ih h.2]

theorem excluded?_of_visit {outcome : Outcome}
    (h : ((source.visit c).run before).result = .ok outcome) :
    excluded? (c.name, outcome) = if (before.1.check c.name).1 then some c.name else none := by
  rcases visit_ok h with ⟨rfl, hcheck⟩ | ⟨hcheck, hcompile⟩
  · rw [hcheck]
    rfl
  · rw [hcheck]
    rcases compileClass_ok hcompile with ⟨stub, rfl, -⟩ | ⟨reason, rfl, -⟩ <;> rfl

/-- A run to the end has made one check for each class, and the classes that were granted are the
excluded ones. -/
theorem checks_of_visitAll {outcomes : List (Text × Outcome)}
    (h : ((source.visitAll classes).run before).result = .ok outcomes) :
    ((source.visitAll classes).run before).state.1 =
        before.1.after (classes.map ObservedClass.name) ∧
      outcomes.filterMap excluded? = before.1.granted (classes.map ObservedClass.name) := by
  induction classes generalizing before outcomes with
  | nil =>
    cases h
    exact ⟨rfl, rfl⟩
  | cons c rest ih =>
    obtain ⟨outcome, houtcome, hlater⟩ := Traced.exists_of_bind_ok h
    obtain ⟨others, hothers, hreturn⟩ := Traced.exists_of_bind_ok hlater
    cases hreturn
    have hstate : ((source.visit c).run before).state.1 = (before.1.check c.name).2 := by
      obtain ⟨e, state⟩ := before
      rw [visit_run]
    obtain ⟨hafter, hgranted⟩ := ih hothers
    rw [hstate] at hafter hgranted
    rw [visitAll, Traced.bind_state_of_ok _ houtcome, Traced.bind_pure_run, List.map_cons]
    refine ⟨hafter, ?_⟩
    rw [List.filterMap_cons, excluded?_of_visit houtcome, Exclusions.granted_cons, ← hgranted]
    cases (before.1.check c.name).1 <;> rfl

theorem excluded_recordFrom (taken : List Text) (outcomes : List (Text × Outcome)) :
    (recordFrom taken outcomes).filterMap excluded? = outcomes.filterMap excluded? := by
  induction outcomes generalizing taken with
  | nil => rfl
  | cons o rest ih =>
    obtain ⟨name, outcome⟩ := o
    have hone (repeated : Bool) :
        excluded? (name, recordAs name repeated outcome) = excluded? (name, outcome) := by
      cases outcome <;> cases repeated <;> rfl
    rw [recordFrom, List.filterMap_cons, List.filterMap_cons, hone, ih]

theorem exclusions_of_compile {r : Compilation}
    (h : ((source.compile classes).run before).result = .ok r) :
    r.excluded = before.1.granted (classes.map ObservedClass.name) ∧
      r.unusedExclusions =
        (before.1.after (classes.map ObservedClass.name)).remaining r.excluded := by
  obtain ⟨outcomes, houtcomes, hfinish⟩ := Traced.exists_of_bind_ok h
  obtain ⟨hafter, hgranted⟩ := checks_of_visitAll houtcomes
  have hexcluded := (gathers_assemble [] outcomes).excluded
  rw [excluded_recordFrom, hgranted] at hexcluded
  cases hfinish
  exact ⟨hexcluded, by rw [← hafter]⟩

theorem compile_congr {e₁ e₂ : Exclusions}
    (h : e₁.answers (classes.map ObservedClass.name) =
      e₂.answers (classes.map ObservedClass.name)) :
    ((source.compile classes).run (e₁, state)).result.map
        (fun r => (r.classes, r.excluded, r.skipped)) =
      ((source.compile classes).run (e₂, state)).result.map
        (fun r => (r.classes, r.excluded, r.skipped)) := by
  have hvisits : ((source.visitAll classes).run (e₁, state)).result =
      ((source.visitAll classes).run (e₂, state)).result := visitAll_congr h
  rcases hrun₁ : (source.visitAll classes).run (e₁, state) with ⟨result₁, reports₁, state₁⟩
  rcases hrun₂ : (source.visitAll classes).run (e₂, state) with ⟨result₂, reports₂, state₂⟩
  rw [hrun₁, hrun₂] at hvisits
  cases hvisits
  rcases result₁ with cause | outcomes
  · rw [compile, Traced.bind_run_error _ hrun₁, Traced.bind_run_error _ hrun₂]
  · rw [compile, Traced.bind_run_ok _ hrun₁, Traced.bind_run_ok _ hrun₂]
    rfl

/-- Two runs over classes of these names account for what is listed; the first uses the entries up
and the second does not. -/
structure Accounts (listed classNames : List Text) (consuming pure : Except ε Compilation) :
    Prop where
  kept : ∀ r, consuming = .ok r → (r.excluded ++ r.unusedExclusions).Perm listed
  unused : ∀ r, pure = .ok r → r.unusedExclusions.Pairwise (· < ·) ∧
    ∀ name, name ∈ r.unusedExclusions ↔ name ∈ listed ∧ name ∉ classNames
  same : (∀ name ∈ listed, classNames.count name ≤ listed.count name) →
    consuming.map (fun r => (r.classes, r.excluded, r.skipped)) =
      pure.map fun r => (r.classes, r.excluded, r.skipped)

theorem accounts (source : Source σ κ ε) (classes : List ObservedClass) (state : Option σ)
    (names : List Text) :
    Accounts (Exclusions.ofNames names true).names (classes.map ObservedClass.name)
      ((source.compile classes).run (.ofNames names true, state)).result
      ((source.compile classes).run (.ofNames names false, state)).result := by
  refine ⟨fun r hr => ?_, fun r hr => ?_, fun henough => ?_⟩
  · obtain ⟨hexcluded, hunused⟩ := exclusions_of_compile hr
    rw [hunused, hexcluded]
    exact Exclusions.granted_append_remaining rfl _ _
  · obtain ⟨hexcluded, hunused⟩ := exclusions_of_compile hr
    rw [Exclusions.after_of_isPure rfl] at hunused
    refine ⟨?_, fun name => ?_⟩
    · rw [hunused, Exclusions.remaining_of_isPure rfl]
      exact Sorted.pairwise_sortOnce _
    · -- what is listed and exposed has been excluded, so the rest of the list is not exposed
      rw [hunused, Exclusions.mem_remaining_of_isPure rfl, hexcluded,
        Exclusions.mem_granted_of_isPure rfl, not_and']
      exact and_congr_right fun hlisted => forall_prop_of_true hlisted
  · refine compile_congr ?_
    rw [Exclusions.answers_of_enough rfl henough, Exclusions.answers_of_isPure rfl]
    rfl

end Source

open Batch

/-- Of a list that uses its entries up, whatever checks were made so far, the first checks of a name
were granted, as many as the name is listed, and what was granted and what remains are what was
listed; a pure list answers by membership whatever was checked before. So a run with a fresh list of
the first kind excludes and leaves over what is listed, whatever the source of documentation. One
with a list of the second kind leaves over, in ascending order, what is listed and no class is called.
If no class comes more often than it is listed, the two come to the same. -/
theorem exclusions_are_conserved [Json.DepthLimit] (names : List Text) :
    (∀ checks,
      (∀ name, (Exclusions.ofNames names true).answersTo name checks =
        List.replicate (min (checks.count name) ((Exclusions.ofNames names true).names.count name))
            true ++
          List.replicate (checks.count name - (Exclusions.ofNames names true).names.count name)
            false) ∧
      ∀ excluded, ((Exclusions.ofNames names true).granted checks ++
        ((Exclusions.ofNames names true).after checks).remaining excluded).Perm
          (Exclusions.ofNames names true).names) ∧
    (∀ checks, (Exclusions.ofNames names false).answers checks =
      checks.map fun name => (name, decide (name ∈ (Exclusions.ofNames names false).names))) ∧
    (∀ {σ κ ε : Type} (source : Source σ κ ε) (classes : List ObservedClass) (state : Option σ),
      Source.Accounts (Exclusions.ofNames names true).names (classes.map ObservedClass.name)
        ((source.compile classes).run (.ofNames names true, state)).result
        ((source.compile classes).run (.ofNames names false, state)).result) ∧
    ∀ (files : FileTree) (classes : List ObservedClass) (store : Option PageStore),
      Source.Accounts (Exclusions.ofNames names true).names (classes.map ObservedClass.name)
        ((compile files classes).run ⟨.ofNames names true, store⟩).result
        ((compile files classes).run ⟨.ofNames names false, store⟩).result := by
  refine ⟨fun checks => ⟨fun name => Exclusions.answersTo_eq rfl name checks,
    Exclusions.granted_append_remaining rfl checks⟩, fun checks => ?_,
    fun source classes state => source.accounts classes state names, fun files classes store => ?_⟩
  · rw [Exclusions.answers_of_isPure rfl]
    simp [Exclusions.lists]
  · have hfiles := (PageStore.source files).accounts classes store names
    have hruns : PageStore.RunsAs (compile files classes)
        ((PageStore.source files).compile classes) := PageStore.runsAs_compile classes
    have hsame (consuming : Bool) := hruns.result_eq ⟨.ofNames names consuming, store⟩
    rwa [hsame true, hsame false] at hfiles

attribute [local instance] Json.DepthLimit.usual

/-- A name that is listed three times, with blanks around it, and one that no class has. The class
of the first comes twice. -/
theorem exclusions_are_conserved_listed_thrice :
    let names : List Text := ["Box", " Box", "Old", " ", "Box\t"]
    let classes : List ObservedClass := [⟨"Box", [], [], []⟩, ⟨"Map", [], [], []⟩,
      ⟨"Box", [], [], []⟩, ⟨"Map", [], [], []⟩]
    let classNames := classes.map ObservedClass.name
    let e := Exclusions.ofNames names true
    e.answersTo "Box" ["Box", "Map", "Box", "Old", "Box", "Box"] = [true, true, true, false] ∧
      (∀ name ∈ e.names, classNames.count name ≤ e.names.count name) ∧
      ∃ r r', ((compile .empty classes).run ⟨e, none⟩).result = .ok r ∧
        ((compile .empty classes).run ⟨.ofNames names false, none⟩).result = .ok r' ∧
        (r.excluded ++ r.unusedExclusions).Perm e.names ∧
        r.unusedExclusions = (["Box", "Old"] : List Text) ∧
        (∀ name, name ∈ r'.unusedExclusions ↔ name ∈ e.names ∧ name ∉ classNames) ∧
        r'.unusedExclusions = (["Old"] : List Text) ∧ r.classes = r'.classes ∧
        r.excluded = r'.excluded ∧ r.skipped = r'.skipped := by
  intro names classes classNames e
  obtain ⟨hchecks, -, -, hfiles⟩ := exclusions_are_conserved names
  have henough : ∀ name ∈ e.names, classNames.count name ≤ e.names.count name := by decide +kernel
  obtain ⟨hkept, hunused, hsame⟩ := hfiles .empty classes none
  have hruns : ∀ consuming : Bool,
      ((compile .empty classes).run ⟨.ofNames names consuming, none⟩).result.toOption.map
        Compilation.unusedExclusions =
          some (if consuming then ["Box", "Old"] else ["Old"] : List Text) := by
    decide +kernel
  obtain ⟨r, hr, hleft⟩ := Option.map_eq_some_iff.1 (hruns true)
  obtain ⟨r', hr', hleft'⟩ := Option.map_eq_some_iff.1 (hruns false)
  have hr := eq_ok_of_toOption hr
  have hr' := eq_ok_of_toOption hr'
  have hlists := hsame henough
  rw [hr, hr'] at hlists
  obtain ⟨hclasses, hexcluded, hskipped⟩ : r.classes = r'.classes ∧ r.excluded = r'.excluded ∧
      r.skipped = r'.skipped := by
    simpa using Except.ok.inj hlists
  refine ⟨?_, henough, r, r', hr, hr', hkept r hr, hleft, (hunused r' hr').2, hleft', hclasses,
    hexcluded, hskipped⟩
  rw [(hchecks _).1 "Box"]
  decide +kernel

end ApiStubs
