import ApiStubs.Batch.Outcome
import ApiStubs.Proofs.Documented.Store
import ApiStubs.Proofs.Merge.Class

/-! What becomes of one class. It depends on what the store answers for the page of the class, never
on what the store has loaded or read before, and only a page that cannot be asked for ends a run. -/

namespace ApiStubs.Batch

abbrev Verdict : Type := Except Abort Outcome × List Diagnostic

def Verdict.after (reports : List Diagnostic) (v : Verdict) : Verdict := (v.1, reports ++ v.2)

/-- What merging over a page comes to; there is no store for the page to go back to. -/
def mergeVerdict (c : ObservedClass) (source : Lookup) : Verdict :=
  let trace := (mergeWith c [] (some ⟨0, source⟩)).run none
  (trace.result, trace.reports)

def shown (shelved : Option Shelved) : Lookup := (shelved.map Shelved.lookup).getD noSource

variable {c : ObservedClass} {files : FileTree} {pagePath : Text} {store₀ store : Option PageStore}
  {shelved : Option Shelved}

theorem mergedReport_fresh (stub : ClassStub) (l : Lookup) :
    mergedReport c stub l.fresh = mergedReport c stub l := by
  cases l <;> rfl

theorem conclude_run (result : Except MergeFault ClassStub) {l l' : Lookup}
    (h : l.fresh = l'.fresh) (store store' : Option PageStore) :
    (conclude c l result).run store =
      ⟨((conclude c l' result).run store').result, ((conclude c l' result).run store').reports,
        store⟩ := by
  rcases result with (fault | fault) | stub
  · rfl
  · rfl
  · have hreport : mergedReport c stub l = mergedReport c stub l' := by
      rw [← mergedReport_fresh, h, mergedReport_fresh]
    change (⟨.ok (Outcome.merged stub), [mergedReport c stub l], store⟩ : Trace _ _ _) =
      ⟨.ok (Outcome.merged stub), [mergedReport c stub l'], store⟩
    rw [hreport]

theorem mergeWith_eq (c : ObservedClass) (pagePath : Text) (shelved : Option Shelved)
    (store : Option PageStore) {merging : Trace Lookup MergeFault ClassStub}
    (h : (Merge.wholeClass c).run (shown shelved) = merging) :
    (mergeWith c pagePath shelved).run store =
      let ending := (conclude c merging.state merging.result).run
        (putBack pagePath shelved merging.state store)
      ⟨ending.result, merging.reports ++ ending.reports, ending.state⟩ := by
  rw [← h]
  rfl

theorem mergeVerdict_eq_merged_iff {source : Lookup} {stub : ClassStub} :
    (mergeVerdict c source).1 = .ok (.merged stub) ↔
      ((Merge.wholeClass c).run source).result = .ok stub := by
  rw [mergeVerdict, mergeWith_eq c [] (some ⟨0, source⟩) none rfl]
  change ((conclude c _ ((Merge.wholeClass c).run source).result).run _).result = _ ↔ _
  rcases ((Merge.wholeClass c).run source).result with (fault | fault) | made
  · exact iff_of_false (fun h => by cases h) (fun h => by cases h)
  · exact iff_of_false (fun h => by cases h) (fun h => by cases h)
  · change Except.ok (Outcome.merged made) = _ ↔ _
    simp

theorem mergeWith_run (hc : c.Readable) (hsound : (shown shelved).Sound) (pagePath : Text)
    (store : Option PageStore) :
    ∃ l, (shown shelved).fresh.Shows l ∧ (mergeWith c pagePath shelved).run store =
      ⟨(mergeVerdict c (shown shelved).fresh).1, (mergeVerdict c (shown shelved).fresh).2,
        putBack pagePath shelved l store⟩ := by
  obtain ⟨observed, hobserved⟩ := Merge.exists_observed hc
  obtain ⟨result, reports, -, hruns⟩ :=
    Merge.wholeClass_reads (shown shelved).sound_fresh hc hobserved
  obtain ⟨l, hl, hrun⟩ := hruns _ hsound.shows
  obtain ⟨l₀, hl₀, hrun₀⟩ := hruns _ (.refl (Lookup.fresh_fresh _))
  have hsame : l.fresh = l₀.fresh := hl.same.trans hl₀.same.symm
  have hmerge := mergeWith_eq c [] (some ⟨0, (shown shelved).fresh⟩) none hrun₀
  refine ⟨l, hl, ?_⟩
  rw [mergeWith_eq c pagePath shelved store hrun, mergeVerdict, hmerge]
  dsimp only
  rw [conclude_run result hsame]

theorem exists_mergeVerdict (hc : c.Readable) {source : Lookup} (h : source.fresh = source) :
    ∃ outcome, (mergeVerdict c source).1 = .ok outcome := by
  obtain ⟨observed, hobserved⟩ := Merge.exists_observed hc
  obtain ⟨result, reports, hsettles, hruns⟩ :=
    Merge.wholeClass_reads (h ▸ source.sound_fresh) hc hobserved
  obtain ⟨l, -, hrun⟩ := hruns _ (.refl h)
  rw [mergeVerdict, mergeWith_eq c [] (some ⟨0, source⟩) none hrun]
  cases hsettles with
  | ok _ => exact ⟨_, rfl⟩
  | unreadable fault _ => exact ⟨_, rfl⟩

def given : Except PageFault Shelved → Except Abort (Option Shelved)
  | .ok shelved => .ok (some shelved)
  | .error (.failed _ _) => .ok none
  | .error (.crashed cause) => .error (.page cause)

def receipt (className pagePath : Text) : Except PageFault Lookup → List Diagnostic
  | .ok (.found _) => []
  | .ok (.missing _) =>
      [.make .noPage className ("Unable to find API page for path " ++ pagePath)]
  | .error (.failed path problem) =>
      [.make .lookupFailed className (PageFault.failed path problem).message]
  | .error (.crashed _) => []

theorem receive_run (className pagePath : Text) (answer : Except PageFault Shelved)
    (store : Option PageStore) :
    (receive className pagePath answer).run store =
      ⟨given answer, receipt className pagePath (answer.map fun s => s.lookup.fresh), store⟩ := by
  rcases answer with (⟨path, problem⟩ | cause) | ⟨serial, (page | reason)⟩ <;> rfl

def verdictOn (c : ObservedClass) (pagePath : Text) (answer : Except PageFault Lookup) : Verdict :=
  match answer with
  | .ok l => (mergeVerdict c l).after (receipt c.name pagePath answer)
  | .error (.failed _ _) => (mergeVerdict c noSource).after (receipt c.name pagePath answer)
  | .error (.crashed cause) => (.error (.page cause), receipt c.name pagePath answer)

theorem verdictOn_of_given {answer : Except PageFault Shelved} (h : given answer = .ok shelved) :
    verdictOn c pagePath (answer.map fun s => s.lookup.fresh) =
      (mergeVerdict c (shown shelved).fresh).after
        (receipt c.name pagePath (answer.map fun s => s.lookup.fresh)) := by
  rcases answer with (⟨path, problem⟩ | cause) | s
  all_goals cases h
  all_goals rfl

theorem verdictOn_of_not_given {answer : Except PageFault Shelved} {abort : Abort}
    (h : given answer = .error abort) :
    verdictOn c pagePath (answer.map fun s => s.lookup.fresh) =
      (.error abort, receipt c.name pagePath (answer.map fun s => s.lookup.fresh)) := by
  rcases answer with (⟨path, problem⟩ | cause) | s
  all_goals cases h
  all_goals rfl

theorem exists_verdictOn (hc : c.Readable) {answer : Except PageFault Lookup}
    (hfresh : ∀ l, answer = .ok l → l.fresh = l)
    (hcrash : ∀ cause, answer ≠ .error (.crashed cause)) :
    ∃ outcome, (verdictOn c pagePath answer).1 = .ok outcome := by
  rcases answer with (⟨path, problem⟩ | cause) | l
  · exact exists_mergeVerdict hc rfl
  · exact absurd rfl (hcrash cause)
  · exact exists_mergeVerdict hc (hfresh l rfl)

variable [Json.DepthLimit]

/-- Without a source of pages there is none, and otherwise nobody is answered otherwise than by the
source as it was at first. -/
def StoresAs (files : FileTree) : (store₀ store : Option PageStore) → Prop
  | none, none => True
  | some s₀, some s => PageStore.AnswersAs files s₀ s
  | _, _ => False

def GivenBy (files : FileTree) (store₀ : Option PageStore) (pagePath : Text)
    (shelved : Option Shelved) : Prop :=
  ∀ old, shelved = some old → old.lookup.Sound ∧
    ∃ s₀, store₀ = some s₀ ∧ s₀.answer files pagePath = .ok old.lookup.fresh

theorem givenBy_none : GivenBy files store₀ pagePath none := nofun

theorem GivenBy.sound (h : GivenBy files store₀ pagePath shelved) : (shown shelved).Sound := by
  cases shelved with
  | none => trivial
  | some old => exact (h old rfl).1

theorem StoresAs.putBack {l : Lookup} (hstore : StoresAs files store₀ store)
    (hgiven : GivenBy files store₀ pagePath shelved) (hl : (shown shelved).fresh.Shows l) :
    StoresAs files store₀ (putBack pagePath shelved l store) := by
  cases shelved with
  | none => exact hstore
  | some old =>
    obtain ⟨-, s₀, rfl, hanswer⟩ := hgiven old rfl
    cases store with
    | none => exact hstore
    | some s =>
      refine PageStore.AnswersAs.update hstore hl.sound ?_
      rw [hanswer, hl.same]
      rfl

theorem mergeWith_verdict (hc : c.Readable) (hstore : StoresAs files store₀ store)
    (hgiven : GivenBy files store₀ pagePath shelved) :
    ∃ store', StoresAs files store₀ store' ∧ (mergeWith c pagePath shelved).run store =
      ⟨(mergeVerdict c (shown shelved).fresh).1, (mergeVerdict c (shown shelved).fresh).2,
        store'⟩ := by
  obtain ⟨l, hl, hrun⟩ := mergeWith_run hc hgiven.sound pagePath store
  exact ⟨_, hstore.putBack hgiven hl, hrun⟩

def pageVerdict (files : FileTree) (store₀ : Option PageStore) (c : ObservedClass)
    (pagePath : Text) : Verdict :=
  match store₀ with
  | none => mergeVerdict c noSource
  | some s₀ => verdictOn c pagePath (s₀.answer files pagePath)

def classVerdict (files : FileTree) (store₀ : Option PageStore) (c : ObservedClass) : Verdict :=
  match pagePath? c.name with
  | none =>
      let trace := (withoutPagePath c.name).run none
      (trace.result, trace.reports)
  | some pagePath => pageVerdict files store₀ c pagePath

theorem consult_run {s₀ s : PageStore} (hstore : PageStore.AnswersAs files s₀ s)
    (className pagePath : Text) :
    ∃ answer s', PageStore.AnswersAs files s₀ s' ∧
      (answer.map fun shelved : Shelved => shelved.lookup.fresh) = s₀.answer files pagePath ∧
      (∀ shelved, given answer = .ok shelved → GivenBy files (some s₀) pagePath shelved) ∧
      (consult files className pagePath).run (some s) =
        ⟨given answer, receipt className pagePath (s₀.answer files pagePath), some s'⟩ := by
  obtain ⟨hstore', hanswer, hsound⟩ := hstore.fetch pagePath
  refine ⟨(s.fetch files pagePath).1, _, hstore', hanswer, ?_, ?_⟩
  · rintro - hgiven old rfl
    cases hfetch : (s.fetch files pagePath).1 with
    | error fault => rw [hfetch] at hgiven; cases fault <;> cases hgiven
    | ok shelved =>
      rw [hfetch] at hgiven hanswer
      cases hgiven
      exact ⟨hsound _ hfetch, s₀, rfl, hanswer.symm⟩
  · rw [← hanswer]
    exact receive_run className pagePath _ _

theorem compileClass_verdict (hc : c.Readable) (hstore : StoresAs files store₀ store) :
    ∃ store', StoresAs files store₀ store' ∧ (compileClass files c).run store =
      ⟨(classVerdict files store₀ c).1, (classVerdict files store₀ c).2, store'⟩ := by
  rw [compileClass, classVerdict]
  cases pagePath? c.name with
  | none => exact ⟨store, hstore, rfl⟩
  | some pagePath =>
    rcases store₀ with - | s₀ <;> rcases store with - | s
    · have hconsult : (consult files c.name pagePath).run none = ⟨.ok none, [], none⟩ := rfl
      have hnone : GivenBy files none pagePath none := givenBy_none
      obtain ⟨store', hstore', hrun⟩ := mergeWith_verdict hc hstore hnone
      refine ⟨store', hstore', ?_⟩
      rw [Traced.bind_run_ok _ hconsult, hrun]
      rfl
    · cases hstore
    · cases hstore
    · obtain ⟨answer, s', hstore', hanswer, hgiven, hrun⟩ := consult_run hstore c.name pagePath
      dsimp only [pageVerdict]
      rw [← hanswer] at hrun ⊢
      cases hgave : given answer with
      | error abort =>
        rw [hgave] at hrun
        exact ⟨some s', hstore', by rw [Traced.bind_run_error _ hrun, verdictOn_of_not_given hgave]⟩
      | ok shelved =>
        rw [hgave] at hrun
        have hafter : StoresAs files (some s₀) (some s') := hstore'
        obtain ⟨store', hstore', hmerge⟩ := mergeWith_verdict hc hafter (hgiven shelved hgave)
        refine ⟨store', hstore', ?_⟩
        rw [Traced.bind_run_ok _ hrun, hmerge, verdictOn_of_given hgave]
        rfl

end ApiStubs.Batch
