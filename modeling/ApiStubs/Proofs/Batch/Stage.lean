import ApiStubs.Batch.Pool
import ApiStubs.Proofs.Batch.Outcome

/-! Stages of a class. A step takes a class nearer to what it comes to anyway, whatever other workers
do to the store between two steps. -/

namespace ApiStubs.Batch

variable [Json.DepthLimit] {c : ObservedClass} {files : FileTree} {pagePath : Text}
  {store₀ store : Option PageStore}

namespace Stage

def verdict (files : FileTree) (store₀ : Option PageStore) (c : ObservedClass) : Stage → Verdict
  | .start => classVerdict files store₀ c
  | .lookUp pagePath => pageVerdict files store₀ c pagePath
  | .load pagePath => pageVerdict files store₀ c pagePath
  | .keep pagePath shelved => verdictOn c pagePath (.ok shelved.lookup.fresh)
  | .merge _ shelved => mergeVerdict c (shown shelved).fresh

/-- What was learnt of the page before is still true of the store. -/
def Fits (files : FileTree) (store₀ : Option PageStore) : Stage → Prop
  | .start => True
  | .lookUp _ => True
  | .load pagePath => ∀ s₀, store₀ = some s₀ →
      s₀.answer files pagePath = PageStore.load files s₀.root pagePath
  | .keep pagePath shelved => GivenBy files store₀ pagePath (some shelved)
  | .merge pagePath shelved => GivenBy files store₀ pagePath shelved

end Stage

/-- The step was towards `before`, and the store still answers as it did at first. -/
structure Advances (files : FileTree) (store₀ : Option PageStore) (c : ObservedClass)
    (before : Verdict) (trace : Trace (Option PageStore) Abort Progress) : Prop where
  store : StoresAs files store₀ trace.state
  going : ∀ next, trace.result = .ok (.going next) →
    next.Fits files store₀ ∧ before = (next.verdict files store₀ c).after trace.reports
  done : ∀ outcome, trace.result = .ok (.done outcome) → before = (.ok outcome, trace.reports)
  failed : ∀ abort, trace.result = .error abort → before = (.error abort, trace.reports)

theorem Advances.of_going {before : Verdict} {next : Stage} {reports : List Diagnostic}
    (hstore : StoresAs files store₀ store) (hfits : next.Fits files store₀)
    (hbefore : before = (next.verdict files store₀ c).after reports) :
    Advances files store₀ c before ⟨.ok (.going next), reports, store⟩ where
  store := hstore
  going := by
    rintro _ h
    cases h
    exact ⟨hfits, hbefore⟩
  done := nofun
  failed := nofun

theorem Advances.of_verdict {v : Verdict} (hstore : StoresAs files store₀ store) :
    Advances files store₀ c v ⟨v.1.map .done, v.2, store⟩ := by
  obtain ⟨abort | outcome, reports⟩ := v
  · exact ⟨hstore, nofun, nofun, by rintro _ h; cases h; rfl⟩
  · exact ⟨hstore, nofun, by rintro _ h; cases h; rfl, nofun⟩

theorem received_advances (answer : Except PageFault Shelved)
    (hstore : StoresAs files store₀ store)
    (hgiven : ∀ shelved, given answer = .ok shelved → GivenBy files store₀ pagePath shelved) :
    Advances files store₀ c (verdictOn c pagePath (answer.map fun s => s.lookup.fresh))
      ((received c pagePath answer).run store) := by
  rw [received, Traced.bind_pure_run, receive_run]
  cases hgave : given answer with
  | ok shelved => exact .of_going hstore (hgiven shelved hgave) (verdictOn_of_given hgave)
  | error abort =>
    rw [verdictOn_of_not_given hgave]
    exact .of_verdict hstore

namespace Stage

theorem advance_start (files : FileTree) (c : ObservedClass) (store : Option PageStore) :
    (start.advance files c).run store =
      match pagePath? c.name, store with
      | none, store => (Progress.done <$> withoutPagePath c.name).run store
      | some pagePath, none => ⟨.ok (.going (.merge pagePath none)), [], none⟩
      | some pagePath, some s => ⟨.ok (.going (.lookUp pagePath)), [], some s⟩ := rfl

theorem start_advances (hstore : StoresAs files store₀ store) :
    Advances files store₀ c (start.verdict files store₀ c)
      ((start.advance files c).run store) := by
  rw [advance_start, verdict, classVerdict]
  cases pagePath? c.name with
  | none =>
    dsimp only
    rw [Traced.map_run]
    exact .of_verdict hstore
  | some pagePath =>
    rcases store₀ with - | s₀ <;> rcases store with - | s
    · exact .of_going hstore givenBy_none rfl
    · cases hstore
    · cases hstore
    · exact .of_going hstore trivial rfl

theorem advance_lookUp (files : FileTree) (c : ObservedClass) (pagePath : Text)
    (store : Option PageStore) :
    ((lookUp pagePath).advance files c).run store =
      match store.bind (·.kept? pagePath) with
      | some shelved => (received c pagePath (.ok shelved)).run store
      | none => ⟨.ok (.going (.load pagePath)), [], store⟩ := rfl

theorem lookUp_advances (hstore : StoresAs files store₀ store) (pagePath : Text) :
    Advances files store₀ c ((lookUp pagePath).verdict files store₀ c)
      (((lookUp pagePath).advance files c).run store) := by
  rw [advance_lookUp]
  rcases store₀ with - | s₀ <;> rcases store with - | s
  · exact .of_going hstore nofun rfl
  · cases hstore
  · cases hstore
  · have hanswers : PageStore.AnswersAs files s₀ s := hstore
    cases hkept : s.kept? pagePath with
    | none =>
      have hload : s₀.answer files pagePath = PageStore.load files s₀.root pagePath := by
        rw [← hanswers.same, PageStore.answer_of_not_kept hkept, hanswers.root]
      rw [Option.bind_some, hkept]
      refine .of_going hstore (fun s₁ hs₁ => ?_) rfl
      cases hs₁
      exact hload
    | some shelved =>
      have hanswer : s₀.answer files pagePath = .ok shelved.lookup.fresh := by
        rw [← hanswers.same, PageStore.answer_of_kept hkept]
      have hverdict : (lookUp pagePath).verdict files (some s₀) c =
          verdictOn c pagePath ((Except.ok shelved).map fun s : Shelved => s.lookup.fresh) :=
        congrArg (verdictOn c pagePath) hanswer
      rw [Option.bind_some, hkept, hverdict]
      refine received_advances (.ok shelved) hstore fun _ hgave => ?_
      cases hgave
      rintro old hold
      cases hold
      exact ⟨hanswers.sound pagePath shelved hkept, s₀, rfl, hanswer⟩

theorem advance_load (files : FileTree) (c : ObservedClass) (pagePath : Text) (s : PageStore) :
    ((load pagePath).advance files c).run (some s) =
      match PageStore.load files s.root pagePath with
      | .error fault => (received c pagePath (.error fault)).run (some s)
      | .ok lookup =>
          ⟨.ok (.going (.keep pagePath (s.number lookup).1)), [], some (s.number lookup).2⟩ := rfl

theorem load_advances (hstore : StoresAs files store₀ store)
    (hfits : (load pagePath).Fits files store₀) :
    Advances files store₀ c ((load pagePath).verdict files store₀ c)
      (((load pagePath).advance files c).run store) := by
  rcases store₀ with - | s₀ <;> rcases store with - | s
  · exact .of_going hstore givenBy_none rfl
  · cases hstore
  · cases hstore
  · have hanswers : PageStore.AnswersAs files s₀ s := hstore
    have hanswer : s₀.answer files pagePath = PageStore.load files s.root pagePath := by
      rw [hfits s₀ rfl, hanswers.root]
    have hverdict : (load pagePath).verdict files (some s₀) c =
        verdictOn c pagePath (PageStore.load files s.root pagePath) :=
      congrArg (verdictOn c pagePath) hanswer
    rw [advance_load, hverdict]
    cases hload : PageStore.load files s.root pagePath with
    | error fault =>
      refine received_advances (.error fault) hstore fun _ hgave => ?_
      cases fault <;> cases hgave
      exact givenBy_none
    | ok l =>
      have hfresh := PageStore.fresh_of_load hload
      have hnumbered : StoresAs files (some s₀) (some (s.number l).2) := hanswers.number l
      refine .of_going hnumbered ?_ ?_
      · rintro old hold
        cases hold
        refine ⟨hfresh ▸ l.sound_fresh, s₀, rfl, ?_⟩
        rw [hanswer, hload]
        exact congrArg _ hfresh.symm
      · change verdictOn c pagePath (.ok l) = verdictOn c pagePath (.ok l.fresh)
        rw [hfresh]

theorem keep_advances {shelved : Shelved} (hstore : StoresAs files store₀ store)
    (hfits : (keep pagePath shelved).Fits files store₀) :
    Advances files store₀ c ((keep pagePath shelved).verdict files store₀ c)
      (((keep pagePath shelved).advance files c).run store) := by
  obtain ⟨hsound, s₀, rfl, hanswer⟩ := hfits shelved rfl
  cases store with
  | none => cases hstore
  | some s =>
    have hkept : StoresAs files (some s₀) (some (s.keep pagePath shelved)) :=
      PageStore.AnswersAs.keep hstore hsound hanswer
    refine received_advances (.ok shelved) hkept fun _ hgave => ?_
    cases hgave
    exact hfits

theorem advance_spec {stage : Stage} (hc : c.Readable) (hstore : StoresAs files store₀ store)
    (hfits : stage.Fits files store₀) :
    Advances files store₀ c (stage.verdict files store₀ c)
      ((stage.advance files c).run store) := by
  cases stage with
  | start => exact start_advances hstore
  | lookUp pagePath => exact lookUp_advances hstore pagePath
  | load pagePath => exact load_advances hstore hfits
  | keep pagePath shelved => exact keep_advances hstore hfits
  | merge pagePath shelved =>
    obtain ⟨store', hstore', hrun⟩ := mergeWith_verdict hc hstore hfits
    change Advances _ _ _ _ ((Progress.done <$> mergeWith c pagePath shelved).run store)
    rw [Traced.map_run, hrun]
    exact .of_verdict hstore'

end Stage
end ApiStubs.Batch
