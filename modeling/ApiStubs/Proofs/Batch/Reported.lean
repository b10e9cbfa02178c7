import ApiStubs.Proofs.Batch.Places
import ApiStubs.Proofs.Journal

/-! What a run reports, and how it accounts for the result. A class is told of by what became of its
page, then by its members, and at last by what became of itself; and the end of the run tells of
every class that was merged in vain. -/

namespace ApiStubs

namespace DiagnosticKind

def isOfMember : DiagnosticKind → Bool
  | .fieldMismatch | .fieldUndocumented | .methodUndocumented => true
  | _ => false

def isOfPage : DiagnosticKind → Bool
  | .noPage | .lookupFailed => true
  | _ => false

def isOfClass (kind : DiagnosticKind) : Bool := !kind.isOfMember && !kind.isOfPage

theorem isOfPage_of_isOfMember {kind : DiagnosticKind} (h : kind.isOfMember = true) :
    kind.isOfPage = false := by
  cases kind <;> first | rfl | cases h

theorem isOfClass_iff {kind : DiagnosticKind} :
    kind.isOfClass = true ↔ kind.isOfMember = false ∧ kind.isOfPage = false := by
  simp [isOfClass]

def isOfSkipped : DiagnosticKind → Bool
  | .noPagePath | .classSkipped | .repeatedClass => true
  | _ => false

end DiagnosticKind

def TellsOfMember (className : Text) (d : Diagnostic) : Prop :=
  d.className = className ∧ d.kind.isOfMember = true

namespace Merge

open Traced (Reports)

theorem reports_ask {P : Diagnostic → Prop} {α : Type}
    (question : Page → Except DetailFault α × Page) : Reports P (Merging.ask question) :=
  Reports.onState _ _

theorem reports_chooseField (className : Text) (expected : Field)
    (documented : Option (Text × Option Field)) :
    Reports (TellsOfMember className) (chooseField className expected documented) := by
  obtain - | ⟨page, - | d⟩ := documented
  · exact .pure
  · exact .bind (.report ⟨rfl, rfl⟩) fun _ => .pure
  · rw [chooseField]
    split_ifs
    · exact .pure
    · exact .bind (.report ⟨rfl, rfl⟩) fun _ => .pure

theorem reports_resolveField (className : Text) (f : ObservedField) :
    Reports (TellsOfMember className) (resolveField className f) := by
  rw [resolveField]
  split_ifs
  · exact .bind (.ofExcept _ _) fun expected =>
      .bind (reports_ask _) fun documented => reports_chooseField className expected documented
  · exact .ofExcept _ _

theorem reports_fieldsFrom (className : Text) (taken : List Text) (fields : List ObservedField) :
    Reports (TellsOfMember className) (fieldsFrom className taken fields) := by
  induction fields generalizing taken with
  | nil => exact .pure
  | cons f rest ih =>
    rw [fieldsFrom]
    split_ifs
    · exact ih taken
    · exact .bind (reports_resolveField className f) fun _ => .bind (ih _) fun _ => .pure

theorem reports_chooseMethod (className : Text) (observed : Method)
    (documented : Option (Text × List Method)) :
    Reports (TellsOfMember className) (chooseMethod className observed documented) := by
  obtain - | ⟨page, overloads⟩ := documented
  · exact .pure
  · refine .bind (.ofExcept _ _) fun found => ?_
    cases found with
    | none => exact .bind (.report ⟨rfl, rfl⟩) fun _ => .pure
    | some d => exact .pure

theorem reports_methodsFrom (className : Text) (taken : List (Text × List Text))
    (methods : List ObservedMethod) :
    Reports (TellsOfMember className) (methodsFrom className taken methods) := by
  induction methods generalizing taken with
  | nil => exact .pure
  | cons m rest ih =>
    rw [methodsFrom]
    split_ifs
    · exact ih taken
    · refine .bind (.bind (.ofExcept _ _) fun observed => .bind (reports_ask _) fun documented =>
        reports_chooseMethod className observed documented) fun resolved => ?_
      dsimp only
      split_ifs
      · exact ih taken
      · exact .bind (ih _) fun _ => .pure

theorem reports_wholeClass (c : ObservedClass) :
    Reports (TellsOfMember c.name) (wholeClass c) :=
  .bind (reports_fieldsFrom c.name [] c.fields) fun _ =>
    .bind (reports_methodsFrom c.name [] c.methods) fun _ => .ofExcept _ _

end Merge

namespace Batch

variable {files : FileTree} {c : ObservedClass} {classes : List ObservedClass} {session : Session}
  {store₀ : Option PageStore} {outcome : Outcome}

def Closes (place : Text × Outcome) (d : Diagnostic) : Prop :=
  d.className = place.1 ∧
    match place.2 with
    | .excluded => d.kind = .classExcluded
    | .skipped reason => (d.kind = .noPagePath ∨ d.kind = .classSkipped) ∧ d.message = reason
    | .merged _ => d.kind = .classCompiled

theorem Closes.isOfClass {place : Text × Outcome} {d : Diagnostic} (h : Closes place d) :
    d.kind.isOfClass = true := by
  obtain ⟨name, - | reason | stub⟩ := place
  · rw [show d.kind = _ from h.2]; rfl
  · rcases h.2.1 with hkind | hkind <;> (rw [hkind]; rfl)
  · rw [show d.kind = _ from h.2]; rfl

/-- The reports of one class, of which `kinds` are about its page. -/
structure Tells (place : Text × Outcome) (kinds : List DiagnosticKind) (reports : List Diagnostic) :
    Prop where
  name : ∀ d ∈ reports, d.className = place.1
  page : (reports.filter (·.kind.isOfPage)).map Diagnostic.kind = kinds
  closing : ∃ d, Closes place d ∧ reports.filter (·.kind.isOfClass) = [d]

theorem tells_of_parts {place : Text × Outcome} {asked members : List Diagnostic} {d : Diagnostic}
    (hasked : ∀ d ∈ asked, d.className = place.1 ∧ d.kind.isOfPage = true)
    (hmembers : ∀ d ∈ members, TellsOfMember place.1 d) (hd : Closes place d) :
    Tells place (asked.map Diagnostic.kind) (asked ++ (members ++ [d])) where
  name other hother := by
    simp only [List.mem_append, List.mem_singleton] at hother
    rcases hother with h | h | rfl
    · exact (hasked other h).1
    · exact (hmembers other h).1
    · exact hd.1
  page := by
    obtain ⟨-, hnot⟩ := DiagnosticKind.isOfClass_iff.1 hd.isOfClass
    have hmember : members.filter (·.kind.isOfPage) = [] := List.filter_eq_nil_iff.2 fun m hm => by
      simp [DiagnosticKind.isOfPage_of_isOfMember (hmembers m hm).2]
    rw [List.filter_append, List.filter_append, hmember, List.filter_eq_self.2 fun a ha =>
      (hasked a ha).2, List.filter_singleton, hnot]
    simp
  closing := by
    have hpage : asked.filter (·.kind.isOfClass) = [] := List.filter_eq_nil_iff.2 fun a ha => by
      simp [DiagnosticKind.isOfClass, (hasked a ha).2]
    have hmember : members.filter (·.kind.isOfClass) = [] := List.filter_eq_nil_iff.2 fun m hm => by
      simp [DiagnosticKind.isOfClass, (hmembers m hm).2]
    refine ⟨d, hd, ?_⟩
    rw [List.filter_append, List.filter_append, hpage, hmember, List.filter_singleton, hd.isOfClass]
    rfl

theorem mergeVerdict_reports {source : Lookup} (h : (mergeVerdict c source).1 = .ok outcome) :
    ∃ members d, (mergeVerdict c source).2 = members ++ [d] ∧
      (∀ m ∈ members, TellsOfMember c.name m) ∧ Closes (c.name, outcome) d := by
  have hrun := mergeWith_eq c [] (some ⟨0, source⟩) none rfl
  have hmembers := Merge.reports_wholeClass c source
  rw [mergeVerdict, hrun] at h ⊢
  generalize hmerging : (Merge.wholeClass c).run (shown (some ⟨0, source⟩)) = merging at h ⊢
  rw [show (Merge.wholeClass c).run source = merging from hmerging] at hmembers
  refine ⟨merging.reports, ?_⟩
  rcases hresult : merging.result with (fault | fault) | stub
  · rw [hresult] at h
    cases h
    exact ⟨_, rfl, hmembers, rfl, .inr rfl, rfl⟩
  · rw [hresult] at h
    cases h
  · rw [hresult] at h
    cases h
    exact ⟨_, rfl, hmembers, rfl, rfl⟩

theorem receipt_reports (className pagePath : Text) (answer : Except PageFault Lookup) :
    ∀ d ∈ receipt className pagePath answer, d.className = className ∧ d.kind.isOfPage = true := by
  rcases answer with (⟨path, problem⟩ | cause) | (page | reason)
  · exact List.forall_mem_singleton.2 ⟨rfl, rfl⟩
  · exact nofun
  · exact nofun
  · exact List.forall_mem_singleton.2 ⟨rfl, rfl⟩

theorem tells_of_mergeVerdict {source : Lookup} {asked : List Diagnostic}
    (hasked : ∀ d ∈ asked, d.className = c.name ∧ d.kind.isOfPage = true)
    (h : (mergeVerdict c source).1 = .ok outcome) :
    Tells (c.name, outcome) (asked.map Diagnostic.kind) (asked ++ (mergeVerdict c source).2) := by
  obtain ⟨members, d, hreports, hmembers, hd⟩ := mergeVerdict_reports h
  rw [hreports]
  exact tells_of_parts hasked hmembers hd

theorem tells_of_verdictOn {pagePath : Text} {answer : Except PageFault Lookup}
    (h : (verdictOn c pagePath answer).1 = .ok outcome) :
    Tells (c.name, outcome) ((receipt c.name pagePath answer).map Diagnostic.kind)
      (verdictOn c pagePath answer).2 := by
  have hasked := receipt_reports c.name pagePath answer
  rcases answer with (⟨path, problem⟩ | cause) | l
  · exact tells_of_mergeVerdict hasked h
  · cases h
  · exact tells_of_mergeVerdict hasked h

theorem tells_of_closing {place : Text × Outcome} {d : Diagnostic} (hd : Closes place d) :
    Tells place [] [d] :=
  @tells_of_parts place [] [] d (List.forall_mem_nil _) (List.forall_mem_nil _) hd

/-- The reports that close the classes, and then those of classes merged in vain, account for the
lists. -/
structure Accounts (r : Compilation) (closings again : List Diagnostic) : Prop where
  excluded : closings.countP (·.kind == .classExcluded) = r.excluded.length
  compiled : closings.countP (·.kind == .classCompiled) = r.classes.length + again.length
  unrepeated : closings.countP (·.kind == .repeatedClass) = 0
  repeated : ∀ d ∈ again, d.kind = .repeatedClass
  skipped : (r.skipped.map fun s => (s.name, s.reason)).Perm
    ((closings.filter (·.kind.isOfSkipped) ++ again).map fun d => (d.className, d.message))

theorem Accounts.cons {r r' : Compilation} {closings again again' : List Diagnostic}
    {d : Diagnostic} {kind : DiagnosticKind} (hkind : d.kind = kind) (h : Accounts r closings again)
    (hexcluded : r'.excluded.length =
      r.excluded.length + if kind = .classExcluded then 1 else 0)
    (hcompiled : r'.classes.length + again'.length =
      r.classes.length + again.length + if kind = .classCompiled then 1 else 0)
    (hunrepeated : kind ≠ .repeatedClass) (hrepeated : ∀ d ∈ again', d.kind = .repeatedClass)
    (hskipped : (r'.skipped.map fun s => (s.name, s.reason)).Perm
      (((if kind.isOfSkipped then [d] else []) ++ closings.filter (·.kind.isOfSkipped) ++
        again').map fun d => (d.className, d.message))) :
    Accounts r' (d :: closings) again' := by
  have hcount : ∀ other : DiagnosticKind, (d :: closings).countP (·.kind == other) =
      closings.countP (·.kind == other) + if kind = other then 1 else 0 := by
    intro other
    rw [List.countP_cons, hkind]
    simp
  refine ⟨?_, ?_, ?_, hrepeated, ?_⟩
  · rw [hcount, h.excluded, hexcluded]
  · rw [hcount, h.compiled, hcompiled]
  · rw [hcount, h.unrepeated, if_neg hunrepeated]
  · rw [List.filter_cons, hkind]
    cases hskips : kind.isOfSkipped with
    | true => rwa [hskips] at hskipped
    | false => rwa [hskips] at hskipped

theorem accounts_assemble (taken : List Text) {outcomes : List (Text × Outcome)}
    {closings : List Diagnostic} (h : List.Forall₂ Closes outcomes closings) :
    Accounts (assemble taken outcomes).1 closings (assemble taken outcomes).2 := by
  induction h generalizing taken with
  | nil => exact ⟨rfl, rfl, rfl, List.forall_mem_nil _, .refl _⟩
  | @cons place d rest closings hd _ ih =>
    obtain ⟨name, - | reason | stub⟩ := place
    · have hrest := ih taken
      exact hrest.cons hd.2 rfl rfl (by decide) hrest.repeated hrest.skipped
    · obtain ⟨hname, hkind, rfl⟩ := hd
      obtain rfl : d.className = name := hname
      have hrest := ih taken
      have hskipped := hrest.skipped.cons (d.className, d.message)
      rcases hkind with hkind | hkind
      · exact hrest.cons hkind rfl rfl (by decide) hrest.repeated hskipped
      · exact hrest.cons hkind rfl rfl (by decide) hrest.repeated hskipped
    · rw [assemble]
      split_ifs
      · have hrest := ih taken
        refine hrest.cons hd.2 rfl rfl (by decide) (List.forall_mem_cons.2 ⟨rfl, hrest.repeated⟩) ?_
        refine (hrest.skipped.cons (name, repeatedReason name)).trans ?_
        rw [List.map_append, List.map_append]
        exact List.perm_middle.symm
      · have hrest := ih (name :: taken)
        exact hrest.cons hd.2 rfl (Nat.add_right_comm _ _ _) (by decide) hrest.repeated
          hrest.skipped

theorem forall₂_closings {visited : List (ObservedClass × Trace Session Abort Outcome)}
    {outcomes : List (Text × Outcome)}
    (houtcomes : List.Forall₂ (fun v o => o.1 = v.1.name ∧ v.2.result = .ok o.2) visited outcomes)
    (htells : ∀ v ∈ visited, ∀ outcome, v.2.result = .ok outcome →
      ∃ kinds, Tells (v.1.name, outcome) kinds v.2.reports) :
    List.Forall₂ Closes outcomes
      ((visited.flatMap fun v => v.2.reports).filter (·.kind.isOfClass)) := by
  induction houtcomes with
  | nil => exact .nil
  | @cons v o visited outcomes hvo _ ih =>
    obtain ⟨hname, hresult⟩ := hvo
    obtain ⟨kinds, htold⟩ := htells v List.mem_cons_self o.2 hresult
    -- of the reports of one class just one closes it
    obtain ⟨d, hd, hclosing⟩ := htold.closing
    rw [List.flatMap_cons, List.filter_append, hclosing]
    rw [← hname] at hd
    exact .cons hd (ih fun v hv => htells v (List.mem_cons_of_mem _ hv))

theorem countP_filter_isOfClass {kind : DiagnosticKind} (hkind : kind.isOfClass = true)
    (reports : List Diagnostic) :
    (reports.filter (·.kind.isOfClass)).countP (·.kind == kind) =
      reports.countP (·.kind == kind) := by
  rw [List.countP_filter]
  refine List.countP_congr fun d _ => ?_
  simp only [Bool.and_eq_true, beq_iff_eq, and_iff_left_iff_imp]
  rintro rfl
  exact hkind

theorem filter_isOfSkipped (reports : List Diagnostic) :
    (reports.filter (·.kind.isOfClass)).filter (·.kind.isOfSkipped) =
      reports.filter (·.kind.isOfSkipped) := by
  rw [List.filter_filter]
  refine List.filter_congr fun d _ => ?_
  cases d.kind <;> rfl

theorem countP_isOfSkipped (reports : List Diagnostic) :
    reports.countP (·.kind == .noPagePath) + reports.countP (·.kind == .classSkipped) +
        reports.countP (·.kind == .repeatedClass) = reports.countP (·.kind.isOfSkipped) := by
  induction reports with
  | nil => rfl
  | cons d rest ih =>
    have hone : ∀ kind : DiagnosticKind, (if kind == .noPagePath then 1 else 0) +
        (if kind == .classSkipped then 1 else 0) + (if kind == .repeatedClass then 1 else 0) =
          if kind.isOfSkipped then 1 else 0 := by
      intro kind
      cases kind <;> rfl
    simp only [List.countP_cons]
    rw [← ih, ← hone d.kind]
    omega

theorem Accounts.totals {r : Compilation} {reports again : List Diagnostic}
    (h : Accounts r (reports.filter (·.kind.isOfClass)) again) :
    let count := fun kind => (reports ++ again).countP (·.kind == kind)
    count .classExcluded = r.excluded.length ∧
      count .classCompiled = r.classes.length + count .repeatedClass ∧
      count .noPagePath + count .classSkipped + count .repeatedClass = r.skipped.length ∧
      (r.skipped.map fun s => (s.name, s.reason)).Perm
        (((reports ++ again).filter (·.kind.isOfSkipped)).map fun d =>
          (d.className, d.message)) := by
  intro count
  have hcount : ∀ kind : DiagnosticKind, kind.isOfClass = true → count kind =
      (reports.filter (·.kind.isOfClass)).countP (·.kind == kind) +
        again.countP (·.kind == kind) := by
    intro kind hkind
    rw [countP_filter_isOfClass hkind]
    exact List.countP_append
  have hagain : ∀ kind, kind ≠ .repeatedClass → again.countP (·.kind == kind) = 0 := by
    intro kind hkind
    rw [List.countP_eq_zero]
    intro d hd heq
    rw [h.repeated d hd] at heq
    exact hkind (beq_iff_eq.1 heq).symm
  have hrepeated : count .repeatedClass = again.length := by
    rw [hcount .repeatedClass rfl, h.unrepeated, Nat.zero_add, List.countP_eq_length]
    exact fun d hd => beq_iff_eq.2 (h.repeated d hd)
  have hskipped : (r.skipped.map fun s => (s.name, s.reason)).Perm
      (((reports ++ again).filter (·.kind.isOfSkipped)).map fun d =>
        (d.className, d.message)) := by
    have hfilter : again.filter (·.kind.isOfSkipped) = again :=
      List.filter_eq_self.2 fun d hd => by rw [h.repeated d hd]; rfl
    rw [List.filter_append, ← filter_isOfSkipped, hfilter]
    exact h.skipped
  refine ⟨?_, ?_, ?_, hskipped⟩
  · rw [hcount .classExcluded rfl, hagain .classExcluded (by decide), h.excluded, Nat.add_zero]
  · rw [hcount .classCompiled rfl, hagain .classCompiled (by decide), h.compiled, hrepeated,
      Nat.add_zero]
  · have hlength := hskipped.length_eq
    rw [List.length_map, List.length_map, ← List.countP_eq_length_filter, ← countP_isOfSkipped]
      at hlength
    exact hlength.symm

variable [Json.DepthLimit]

def pageKinds (files : FileTree) (store₀ : Option PageStore) (c : ObservedClass) :
    List DiagnosticKind :=
  match pagePath? c.name with
  | none => []
  | some pagePath =>
      match store₀ with
      | none => []
      | some s₀ => (receipt c.name pagePath (s₀.answer files pagePath)).map Diagnostic.kind

theorem tells_of_classVerdict (h : (classVerdict files store₀ c).1 = .ok outcome) :
    Tells (c.name, outcome) (pageKinds files store₀ c) (classVerdict files store₀ c).2 := by
  rw [classVerdict] at h ⊢
  rw [pageKinds]
  cases hpath : pagePath? c.name with
  | none =>
    rw [hpath] at h
    cases h
    exact tells_of_closing ⟨rfl, .inl rfl, rfl⟩
  | some pagePath =>
    rw [hpath] at h
    cases store₀ with
    | none => exact @tells_of_mergeVerdict c outcome noSource [] (List.forall_mem_nil _) h
    | some s₀ => exact tells_of_verdictOn h

theorem tells_of_visitVerdict {excluded : Bool}
    (h : (visitVerdict files store₀ excluded c).1 = .ok outcome) :
    Tells (c.name, outcome) (if excluded then [] else pageKinds files store₀ c)
      (visitVerdict files store₀ excluded c).2 := by
  rw [visitVerdict] at h ⊢
  cases excluded with
  | false => exact tells_of_classVerdict h
  | true =>
    cases h
    exact tells_of_closing ⟨rfl, rfl⟩

def visits (files : FileTree) (session : Session) :
    List ObservedClass → List (ObservedClass × Trace Session Abort Outcome)
  | [] => []
  | c :: rest =>
      (c, (visit files c).run session) :: visits files ((visit files c).run session).state rest

theorem visitAll_visits {outcomes : List (Text × Outcome)}
    (h : ((visitAll files classes).run session).result = .ok outcomes) :
    ((visitAll files classes).run session).reports =
        (visits files session classes).flatMap (fun v => v.2.reports) ∧
      List.Forall₂ (fun v o => o.1 = v.1.name ∧ v.2.result = .ok o.2)
        (visits files session classes) outcomes := by
  induction classes generalizing session outcomes with
  | nil =>
    cases h
    exact ⟨rfl, .nil⟩
  | cons c rest ih =>
    obtain ⟨outcome, houtcome, hlater⟩ := Traced.exists_of_bind_ok h
    obtain ⟨others, hothers, hreturn⟩ := Traced.exists_of_bind_ok hlater
    cases hreturn
    obtain ⟨hreports, hresults⟩ := ih hothers
    rw [visits, List.flatMap_cons, ← hreports]
    refine ⟨?_, .cons ⟨rfl, houtcome⟩ hresults⟩
    rw [visitAll, Traced.bind_reports_of_ok _ houtcome, Traced.bind_pure_run]

theorem visits_verdicts (hclasses : ∀ c ∈ classes, c.Readable)
    (hstore : StoresAs files store₀ session.store) :
    ∀ v ∈ visits files session classes, ∃ excluded,
      v.2.result = (visitVerdict files store₀ excluded v.1).1 ∧
        v.2.reports = (visitVerdict files store₀ excluded v.1).2 := by
  induction classes generalizing session with
  | nil => exact nofun
  | cons c rest ih =>
    obtain ⟨hc, hrest⟩ := List.forall_mem_cons.1 hclasses
    obtain ⟨store', hstore', hrun⟩ := visit_run hc hstore
    refine List.forall_mem_cons.2 ⟨⟨_, by rw [hrun], by rw [hrun]⟩, ih hrest ?_⟩
    rw [hrun]
    exact hstore'

theorem length_pageKinds_le (files : FileTree) (store₀ : Option PageStore) (c : ObservedClass) :
    (pageKinds files store₀ c).length ≤ 1 := by
  rw [pageKinds]
  cases pagePath? c.name with
  | none => exact Nat.zero_le 1
  | some pagePath =>
    cases store₀ with
    | none => exact Nat.zero_le 1
    | some s₀ =>
      dsimp only
      rcases s₀.answer files pagePath with (⟨path, problem⟩ | cause) | (page | reason) <;>
        simp [receipt]

theorem pageKinds_none (files : FileTree) (c : ObservedClass) : pageKinds files none c = [] := by
  rw [pageKinds]
  cases pagePath? c.name <;> rfl

theorem length_pageKinds_iff {s₀ : PageStore} {pagePath : Text}
    (hpath : pagePath? c.name = some pagePath)
    (h : (classVerdict files (some s₀) c).1 = .ok outcome) :
    (pageKinds files (some s₀) c).length = 1 ↔
      ∀ page, s₀.answer files pagePath ≠ .ok (.found page) := by
  have hverdict : (verdictOn c pagePath (s₀.answer files pagePath)).1 = .ok outcome := by
    rw [classVerdict, hpath] at h
    exact h
  simp only [pageKinds, hpath]
  rcases hanswer : s₀.answer files pagePath with (⟨path, problem⟩ | cause) | (page | reason)
  · simp [receipt]
  · rw [hanswer] at hverdict
    cases hverdict
  · simp [receipt]
  · simp [receipt]

theorem compile_accounts {r : Compilation} (hclasses : ∀ c ∈ classes, c.Readable)
    (hstore : StoresAs files session.store session.store)
    (hr : ((compile files classes).run session).result = .ok r) :
    ∃ again, ((compile files classes).run session).reports =
        (visits files session classes).flatMap (fun v => v.2.reports) ++ again ∧
      (∀ v ∈ visits files session classes, ∃ outcome, v.2.result = .ok outcome) ∧
      Accounts r (((visits files session classes).flatMap fun v => v.2.reports).filter
        (·.kind.isOfClass)) again := by
  obtain ⟨outcomes, houtcomes, hfinish⟩ := Traced.exists_of_bind_ok hr
  cases hfinish
  obtain ⟨hreports, hresults⟩ := visitAll_visits houtcomes
  have hclosings := forall₂_closings hresults fun v hv outcome houtcome => by
    obtain ⟨excluded, hresult, htold⟩ := visits_verdicts hclasses hstore v hv
    rw [hresult] at houtcome
    rw [htold]
    exact ⟨_, tells_of_visitVerdict houtcome⟩
  have haccounts := accounts_assemble [] hclosings
  refine ⟨(assemble [] outcomes).2, ?_, fun v hv => ?_, haccounts.excluded, haccounts.compiled,
    haccounts.unrepeated, haccounts.repeated, haccounts.skipped⟩
  · rw [compile, Traced.bind_reports_of_ok _ houtcomes, hreports]
    rfl
  · obtain ⟨o, -, -, hresult⟩ := exists_of_mem_forall₂ hresults.flip hv
    exact ⟨o.2, hresult⟩

theorem visits_classes (files : FileTree) (session : Session) (classes : List ObservedClass) :
    (visits files session classes).map Prod.fst = classes := by
  induction classes generalizing session with
  | nil => rfl
  | cons c rest ih => rw [visits, List.map_cons, ih]

/-- At most one report is about the page, and one is if there is a store but no page to be had. -/
def TellsOfPage (files : FileTree) (store₀ : Option PageStore) (c : ObservedClass)
    (reports : List Diagnostic) : Prop :=
  ∀ pagePath, pagePath? c.name = some pagePath →
    let asked := reports.countP (·.kind.isOfPage)
    asked ≤ 1 ∧ (store₀ = none → asked = 0) ∧
      ∀ s₀, store₀ = some s₀ → (asked = 1 ↔ ∀ page, s₀.answer files pagePath ≠ .ok (.found page))

theorem tellsOfPage_of_visitVerdict {excluded : Bool}
    (h : (visitVerdict files store₀ excluded c).1 = .ok outcome) (hexcluded : outcome ≠ .excluded) :
    TellsOfPage files store₀ c (visitVerdict files store₀ excluded c).2 := by
  cases excluded with
  | true =>
    cases h
    exact absurd rfl hexcluded
  | false =>
    intro pagePath hpath
    have hclass : (classVerdict files store₀ c).1 = .ok outcome := h
    have hcount : (visitVerdict files store₀ false c).2.countP (·.kind.isOfPage) =
        (pageKinds files store₀ c).length := by
      rw [← (tells_of_classVerdict hclass).page, List.length_map, List.countP_eq_length_filter]
      rfl
    simp only [hcount]
    refine ⟨length_pageKinds_le files store₀ c, ?_, ?_⟩
    · rintro rfl
      rw [pageKinds_none]
      rfl
    · rintro s₀ rfl
      exact length_pageKinds_iff hpath hclass

end Batch

open Batch

/-- The reports of a run account for its result. Every class is reported as excluded, skipped or
merged, one that was merged in vain is reported once more, and what is reported of a page is that it
could not be had. -/
theorem reports_account_for_result [Json.DepthLimit] {files : FileTree}
    {classes : List ObservedClass} {session : Session} (hclasses : ∀ c ∈ classes, c.Accepted)
    (hstore : ∀ s, session.store = some s → s.Opened) (forwards : Bool) :
    let trace := (compile files classes).run session
    let journal := Journal.observe ⟨forwards, []⟩ trace.reports
    let count := fun kind => (journal.ofKind kind).length
    let visited := visits files session classes
    ((∀ c ∈ classes, PagesAccessible files session.store c) → ∃ r, trace.result = .ok r) ∧
      (∀ r, trace.result = .ok r →
        count .classExcluded = r.excluded.length ∧
        count .classCompiled = r.classes.length + count .repeatedClass ∧
        count .noPagePath + count .classSkipped + count .repeatedClass = r.skipped.length ∧
        (r.skipped.map fun s => (s.name, s.reason)).Perm
          ((journal.entries.filter (·.kind.isOfSkipped)).map fun d => (d.className, d.message)) ∧
        visited.map Prod.fst = classes ∧
        (∃ again, journal.entries = visited.flatMap (fun v => v.2.reports) ++ again ∧
          ∀ d ∈ again, d.kind = .repeatedClass) ∧
        ∀ v ∈ visited, ∃ outcome, v.2.result = .ok outcome ∧
          (∀ d ∈ v.2.reports, d.className = v.1.name) ∧
          (outcome ≠ .excluded → TellsOfPage files session.store v.1 v.2.reports)) ∧
      (∀ kind, (journal.stats.lookup kind.name).getD 0 = count kind) ∧
      (journal.stats.map Prod.snd).sum = journal.entries.length := by
  intro trace journal count visited
  have hreadable : ∀ c ∈ classes, c.Readable := fun c hc => (hclasses c hc).readable
  have hself : StoresAs files session.store session.store := storesAs_refl hstore
  refine ⟨fun haccess => compile_ok hreadable haccess hself, fun r hr => ?_,
    journal.lookup_stats, journal.sum_stats⟩
  obtain ⟨again, hreports, hoks, haccounts⟩ := compile_accounts hreadable hself hr
  have hentries : journal.entries = visited.flatMap (fun v => v.2.reports) ++ again := by
    rw [← hreports]
    exact Journal.entries_observe _ _
  have hcount : ∀ kind : DiagnosticKind, count kind =
      (visited.flatMap (fun v => v.2.reports) ++ again).countP (·.kind == kind) := by
    intro kind
    rw [← hentries]
    exact journal.length_ofKind kind
  obtain ⟨hexcluded, hcompiled, hskipped, hperm⟩ := haccounts.totals
  refine ⟨?_, ?_, ?_, ?_, visits_classes files session classes,
    ⟨again, hentries, haccounts.repeated⟩, fun v hv => ?_⟩
  · rw [hcount]
    exact hexcluded
  · rw [hcount, hcount]
    exact hcompiled
  · rw [hcount, hcount, hcount]
    exact hskipped
  · rw [hentries]
    exact hperm
  · obtain ⟨outcome, houtcome⟩ := hoks v hv
    obtain ⟨excluded, hresult, htold⟩ := visits_verdicts hreadable hself v hv
    have hverdict := hresult.symm.trans houtcome
    rw [htold]
    exact ⟨outcome, houtcome, (tells_of_visitVerdict hverdict).name,
      tellsOfPage_of_visitVerdict hverdict⟩

attribute [local instance] Json.DepthLimit.usual

/-- An excluded class, one whose page is no text, one without a page, one with a section that cannot
be read, one that has no page path, and one that comes again. -/
theorem reports_account_for_result_mixed :
    let octets := fun s : String => s.toList.map fun ch => UInt8.ofNat ch.toNat
    let docs : Place := Place.working.enter (octets "docs")
    let files : FileTree := ⟨[(docs, .directory),
      (docs.enter (octets "Torn.json"), .file [0xFF]),
      (docs.enter (octets "Box.json"), .file (octets "\x7b\x22methods\x22: 3\x7d"))]⟩
    let put : ObservedMethod := ⟨"put", [⟨⟨"List", []⟩, "end"⟩], ⟨"Any", []⟩, [], false⟩
    let classes : List ObservedClass := [⟨"Out", [], [], []⟩, ⟨"Torn", [], [], [put]⟩,
      ⟨"Gone", [], [], [put]⟩, ⟨"Box", [], [], [put]⟩, ⟨"Box$1", [], [], []⟩, ⟨"Torn", [], [], []⟩]
    let session : Session := ⟨.ofNames ["Out"] true, some (.ofRoot (.ofText "docs"))⟩
    let trace := (compile files classes).run session
    let journal := Journal.observe ⟨true, []⟩ trace.reports
    (∀ c ∈ classes, c.Accepted) ∧ (∀ s, session.store = some s → s.Opened) ∧
      (∀ c ∈ classes, PagesAccessible files session.store c) ∧
      journal.stats = [("class_excluded", 1), ("no_class_path", 1), ("no_documentation", 1),
        ("lookup_failed", 2), ("class_skipped", 1), ("duplicate_class", 1),
        ("class_compiled", 3)].map (fun counted => (Text.ofString counted.1, counted.2)) ∧
      ∃ r, trace.result = .ok r ∧ r.excluded.length = 1 ∧ r.classes.length = 2 ∧
        r.skipped.length = 3 ∧ (r.skipped.map fun s => (s.name, s.reason)).Perm
          ((journal.entries.filter (·.kind.isOfSkipped)).map fun d =>
            (d.className, d.message)) := by
  intro octets docs files put classes session trace journal
  have hclasses : ∀ c ∈ classes, c.Accepted := by
    have hrecords : ∀ c ∈ classes,
        ((ObservedClass.check c.toJson).result "ReflectedClass").toOption = some c := by
      decide +kernel
    exact fun c hc => ObservedClass.accepted_of_record (hrecords c hc)
  have hstore : ∀ s, session.store = some s → s.Opened := by
    rintro s hs
    cases hs
    exact PageStore.opened_ofRoot _
  have hpages : ∀ c ∈ classes, PagesAccessible files session.store c :=
    pagesAccessible_of_read (by decide +kernel)
  obtain ⟨hexists, haccounts, -⟩ := reports_account_for_result hclasses hstore true
  obtain ⟨r, hr⟩ := hexists hpages
  obtain ⟨hexcluded, hcompiled, hskipped, hreasons, -⟩ := haccounts r hr
  have hstats : journal.stats = [("class_excluded", 1), ("no_class_path", 1),
      ("no_documentation", 1), ("lookup_failed", 2), ("class_skipped", 1), ("duplicate_class", 1),
      ("class_compiled", 3)].map (fun counted => (Text.ofString counted.1, counted.2)) := by
    decide +kernel
  let count := fun kind => (journal.ofKind kind).length
  have hcounts : count .classExcluded = 1 ∧ count .classCompiled = 3 ∧ count .repeatedClass = 1 ∧
      count .noPagePath = 1 ∧ count .classSkipped = 1 := by
    decide +kernel
  have hmerged : count .classCompiled = r.classes.length + count .repeatedClass := hcompiled
  have hleft : count .noPagePath + count .classSkipped + count .repeatedClass =
      r.skipped.length := hskipped
  have hout : count .classExcluded = r.excluded.length := hexcluded
  exact ⟨hclasses, hstore, hpages, hstats, r, hr, by omega, by omega, by omega, hreasons⟩

end ApiStubs
