import ApiStubs.Proofs.Batch.Stage
import Mathlib.Algebra.BigOperators.Group.List.Basic
import Mathlib.Algebra.Group.Prod
import Mathlib.Algebra.Order.Group.Multiset

/-! Pools of workers. Until a run is given up, nothing is lost and nothing counts twice: what was
handed in, what the workers are at and what waits in the queue come to the same all the time. -/

namespace ApiStubs.Batch

abbrev Account : Type := Multiset (Nat × Except Abort Outcome) × Multiset Diagnostic

def reported (reports : List Diagnostic) : Account := (0, ↑reports)

def settled (outcomes : List (Nat × Outcome)) (reports : List Diagnostic) : Account :=
  (↑(outcomes.map fun o => (o.1, (Except.ok o.2 : Except Abort Outcome))), ↑reports)

theorem settled_append (outcomes others : List (Nat × Outcome))
    (reports more : List Diagnostic) :
    settled (outcomes ++ others) (reports ++ more) =
      settled outcomes reports + settled others more := by
  refine Prod.ext ?_ (Multiset.coe_add _ _).symm
  rw [settled, List.map_append]
  exact (Multiset.coe_add _ _).symm

def Verdict.account (index : Nat) (v : Verdict) : Account := ({(index, v.1)}, ↑v.2)

theorem Verdict.account_after (index : Nat) (reports : List Diagnostic) (v : Verdict) :
    (v.after reports).account index = reported reports + v.account index := by
  refine Prod.ext ?_ ?_
  · exact (zero_add _).symm
  · exact (Multiset.coe_add _ _).symm

theorem Verdict.account_eq (index : Nat) (v : Verdict) :
    v.account index = reported v.2 + Verdict.account index (v.1, []) := by
  refine Prod.ext ?_ ?_
  · exact (zero_add _).symm
  · exact (add_zero _).symm

theorem sum_account {α : Type} (items : List α) (index : α → Nat) (verdict : α → Verdict) :
    (items.map fun a => (verdict a).account (index a)).sum =
      (↑(items.map fun a => (index a, (verdict a).1)),
        ↑(items.flatMap fun a => (verdict a).2)) := by
  induction items with
  | nil => rfl
  | cons a rest ih =>
    rw [List.map_cons, List.sum_cons, ih, List.map_cons, List.flatMap_cons]
    refine Prod.ext ?_ ?_
    · exact Multiset.singleton_add _ _
    · exact Multiset.coe_add _ _

variable {files : FileTree} {store₀ : Option PageStore} {total : Account} {p : Pool} {i : Nat}

theorem Worker.exists_others {workers : List Worker} {w : Worker} (h : workers[i]? = some w)
    (f : Worker → Account) :
    ∃ others, (workers.map f).sum = f w + others ∧
      ∀ w', ((workers.set i w').map f).sum = f w' + others := by
  induction workers generalizing i with
  | nil => cases h
  | cons first rest ih =>
    cases i with
    | zero =>
      cases h
      exact ⟨(rest.map f).sum, by simp, fun w' => by simp⟩
    | succ i =>
      obtain ⟨others, hsum, hset⟩ := ih h
      refine ⟨f first + others, ?_, fun w' => ?_⟩
      · rw [List.map_cons, List.sum_cons, hsum, add_left_comm]
      · rw [List.set_cons_succ, List.map_cons, List.sum_cons, hset, add_left_comm]

namespace Pool

def handedIn (p : Pool) : Account := settled p.outcomes p.reports

theorem forall_mem_set {P : Worker → Prop} {w : Worker} (h : ∀ w ∈ p.workers, P w) (hw : P w) :
    ∀ w' ∈ p.workers.set i w, P w' := by
  intro w' hw'
  rcases List.mem_or_eq_of_mem_set hw' with hmem | rfl
  · exact h w' hmem
  · exact hw

theorem stopped_of_set {w : Worker} (h : Worker.stopped ∈ p.workers.set i w)
    (hw : w ≠ .stopped) : Worker.stopped ∈ p.workers := by
  rcases List.mem_or_eq_of_mem_set h with hmem | heq
  · exact hmem
  · exact absurd heq.symm hw

theorem take_nil (h : p.queue = []) : p.take i = p.set i .stopped := by
  rw [take, h]

theorem take_cons {job : Job} {rest : List Job} (h : p.queue = job :: rest) :
    p.take i = { p with workers := p.workers.set i (.busy job .start), queue := rest } := by
  rw [take, h]
  rfl

end Pool

variable [Json.DepthLimit]

def Job.account (files : FileTree) (store₀ : Option PageStore) (job : Job) : Account :=
  (classVerdict files store₀ job.observed).account job.index

namespace Worker

def account (files : FileTree) (store₀ : Option PageStore) : Worker → Account
  | .idle => 0
  | .busy job stage => (stage.verdict files store₀ job.observed).account job.index
  | .holding job outcome => Verdict.account job.index (.ok outcome, [])
  | .stopped => 0

def Fits (files : FileTree) (store₀ : Option PageStore) : Worker → Prop
  | .busy job stage => job.observed.Readable ∧ stage.Fits files store₀
  | _ => True

end Worker

namespace Pool

def account (files : FileTree) (store₀ : Option PageStore) (p : Pool) : Account :=
  p.handedIn + (p.workers.map (Worker.account files store₀)).sum +
    (p.queue.map (Job.account files store₀)).sum

/-- Nothing is lost before a run is given up, and it is given up only for a class that ends it. -/
structure Consistent (files : FileTree) (store₀ : Option PageStore) (total : Account) (p : Pool) :
    Prop where
  store : StoresAs files store₀ p.store
  queue : ∀ job ∈ p.queue, job.observed.Readable
  workers : ∀ w ∈ p.workers, w.Fits files store₀
  account : p.abort = none → p.account files store₀ = total
  aborted : ∀ abort, p.abort = some abort → ∃ index cause, (index, .error cause) ∈ total.1
  emptied : p.abort = none → Worker.stopped ∈ p.workers → p.queue = []

theorem exists_rest {w : Worker} (hw : p.workers[i]? = some w) (files : FileTree)
    (store₀ : Option PageStore) :
    ∃ rest, p.account files store₀ = w.account files store₀ + rest ∧
      ∀ w', (p.set i w').account files store₀ = w'.account files store₀ + rest := by
  obtain ⟨others, hsum, hset⟩ := Worker.exists_others hw (Worker.account files store₀)
  refine ⟨p.handedIn + others + (p.queue.map (Job.account files store₀)).sum, ?_, fun w' => ?_⟩
  · rw [account, hsum]
    ac_rfl
  · have hset' : ((p.set i w').workers.map (Worker.account files store₀)).sum =
        w'.account files store₀ + others := hset w'
    rw [account, hset']
    change p.handedIn + _ + (p.queue.map (Job.account files store₀)).sum = _
    ac_rfl

theorem Consistent.take (h : Consistent files store₀ total p) (hw : p.workers[i]? = some .idle) :
    Consistent files store₀ total (p.take i) := by
  cases hqueue : p.queue with
  | nil =>
    obtain ⟨rest, haccount, hset⟩ := exists_rest hw files store₀
    rw [take_nil hqueue]
    refine ⟨h.store, h.queue, forall_mem_set h.workers trivial, fun hrun => ?_, h.aborted, ?_⟩
    · rw [hset, ← h.account hrun, haccount]
      rfl
    · intro _ _
      exact hqueue
  | cons job rest =>
    have hjob : job.observed.Readable := h.queue job (hqueue ▸ List.mem_cons_self)
    rw [take_cons hqueue]
    refine ⟨h.store, ?_, forall_mem_set h.workers ⟨hjob, trivial⟩, fun hrun => ?_, h.aborted, ?_⟩
    · intro job' hjob'
      exact h.queue job' (hqueue ▸ List.mem_cons_of_mem _ hjob')
    · obtain ⟨others, hsum, hset⟩ := Worker.exists_others hw (Worker.account files store₀)
      rw [← h.account hrun, Pool.account, Pool.account, hqueue, hsum, hset, List.map_cons,
        List.sum_cons]
      change p.handedIn + (job.account files store₀ + others) + _ =
        p.handedIn + (0 + others) + _
      rw [zero_add]
      ac_rfl
    · intro hrun hstopped
      have hempty := h.emptied hrun (stopped_of_set hstopped nofun)
      rw [hqueue] at hempty
      cases hempty

theorem account_handIn (p : Pool) (i : Nat) (job : Job) (outcome : Outcome) :
    (p.handIn i job outcome).account files store₀ =
      Verdict.account job.index (.ok outcome, []) + (p.set i .idle).account files store₀ := by
  have hhanded : (p.handIn i job outcome).handedIn =
      Verdict.account job.index (.ok outcome, []) + (p.set i .idle).handedIn := by
    refine Prod.ext ?_ (zero_add _).symm
    exact (Multiset.singleton_add (job.index, (.ok outcome : Except Abort Outcome))
      p.handedIn.1).symm
  rw [account, account, hhanded, add_assoc, add_assoc, add_assoc]
  rfl

theorem Consistent.handIn {job : Job} {outcome : Outcome} (h : Consistent files store₀ total p)
    (hw : p.workers[i]? = some (.holding job outcome)) :
    Consistent files store₀ total (p.handIn i job outcome) := by
  refine ⟨h.store, h.queue, forall_mem_set h.workers trivial, fun hrun => ?_, h.aborted, ?_⟩
  · obtain ⟨rest, haccount, hset⟩ := exists_rest hw files store₀
    rw [account_handIn, hset, ← h.account hrun, haccount]
    exact congrArg _ (zero_add rest)
  · intro hrun hstopped
    exact h.emptied hrun (stopped_of_set hstopped nofun)

def noting (p : Pool) (trace : Trace (Option PageStore) Abort Progress) : Pool :=
  { p with reports := p.reports ++ trace.reports, store := trace.state }

theorem account_noting (p : Pool) (trace : Trace (Option PageStore) Abort Progress) :
    (p.noting trace).account files store₀ =
      reported trace.reports + p.account files store₀ := by
  have hhanded : (p.noting trace).handedIn = reported trace.reports + p.handedIn :=
    Prod.ext (zero_add _).symm ((Multiset.coe_add _ _).symm.trans (add_comm _ _))
  rw [account, account, hhanded, add_assoc, add_assoc, add_assoc]
  rfl

/-- A worker's step only moves what it reports from what is left to what was reported. -/
theorem account_step {trace : Trace (Option PageStore) Abort Progress} {w w' : Worker}
    (hw : p.workers[i]? = some w)
    (h : w.account files store₀ = reported trace.reports + w'.account files store₀) :
    ((p.noting trace).set i w').account files store₀ = p.account files store₀ := by
  have hnoted : (p.noting trace).workers[i]? = some w := hw
  obtain ⟨rest, haccount, hset⟩ := exists_rest hnoted files store₀
  rw [account_noting, h, add_assoc] at haccount
  rw [hset, add_left_cancel haccount]

theorem work_eq (p : Pool) (i : Nat) (job : Job) {stage : Stage}
    {trace : Trace (Option PageStore) Abort Progress}
    (h : (stage.advance files job.observed).run p.store = trace) :
    p.work files i job stage =
      match trace.result with
      | .ok (.going next) => (p.noting trace).set i (.busy job next)
      | .ok (.done outcome) => (p.noting trace).set i (.holding job outcome)
      | .error abort => { (p.noting trace).set i .stopped with abort := some abort } := by
  rw [← h]
  rfl

theorem Consistent.work {job : Job} {stage : Stage} (h : Consistent files store₀ total p)
    (hw : p.workers[i]? = some (.busy job stage)) :
    Consistent files store₀ total (p.work files i job stage) := by
  obtain ⟨hc, hfits⟩ := h.workers _ (List.mem_of_getElem? hw)
  have hadvance := Stage.advance_spec hc h.store hfits
  generalize htrace : (stage.advance files job.observed).run p.store = trace at hadvance
  rw [work_eq p i job htrace]
  rcases hresult : trace.result with abort | next | outcome
  · have hverdict := hadvance.failed abort hresult
    refine ⟨hadvance.store, h.queue, forall_mem_set h.workers trivial, nofun, fun _ _ => ?_, nofun⟩
    -- another worker may have ended the run before
    cases habort : p.abort with
    | some earlier => exact h.aborted earlier habort
    | none =>
      obtain ⟨rest, haccount, -⟩ := exists_rest hw files store₀
      rw [h.account habort, Worker.account, hverdict] at haccount
      refine ⟨job.index, abort, ?_⟩
      rw [haccount]
      exact Multiset.mem_add.2 (.inl (Multiset.mem_singleton_self _))
  · obtain ⟨hnext, hverdict⟩ := hadvance.going next hresult
    refine ⟨hadvance.store, h.queue, forall_mem_set h.workers ⟨hc, hnext⟩, fun hrun => ?_,
      h.aborted, ?_⟩
    · rw [← h.account hrun]
      refine account_step hw ?_
      rw [Worker.account, Worker.account, hverdict, Verdict.account_after]
    · intro hrun hstopped
      exact h.emptied hrun (stopped_of_set hstopped nofun)
  · have hverdict := hadvance.done outcome hresult
    refine ⟨hadvance.store, h.queue, forall_mem_set h.workers trivial, fun hrun => ?_,
      h.aborted, ?_⟩
    · rw [← h.account hrun]
      refine account_step hw ?_
      rw [Worker.account, Worker.account, hverdict, Verdict.account_eq]
    · intro hrun hstopped
      exact h.emptied hrun (stopped_of_set hstopped nofun)

theorem Consistent.step (h : Consistent files store₀ total p) (i : Nat) :
    Consistent files store₀ total (p.step files i) := by
  rw [Pool.step]
  split
  · exact h.take ‹_›
  · exact h.work ‹_›
  · exact h.handIn ‹_›
  · exact h

theorem Consistent.run (h : Consistent files store₀ total p) (schedule : List Nat) :
    Consistent files store₀ total (schedule.foldl (Pool.step files) p) := by
  induction schedule generalizing p with
  | nil => exact h
  | cons i rest ih => exact ih (h.step i)

theorem length_step (p : Pool) (i : Nat) : (p.step files i).workers.length = p.workers.length := by
  rw [Pool.step]
  split
  · rw [Pool.take]
    split <;> exact List.length_set
  · rw [work_eq p i _ rfl]
    split <;> exact List.length_set
  · exact List.length_set
  · rfl

theorem length_run (p : Pool) (schedule : List Nat) :
    (schedule.foldl (Pool.step files) p).workers.length = p.workers.length := by
  induction schedule generalizing p with
  | nil => rfl
  | cons i rest ih => exact (ih (p.step files i)).trans (length_step p i)

/-- When all workers have stopped, and did so because there was nothing left, all is handed in. -/
theorem Consistent.handedIn_eq (h : Consistent files store₀ total p) (hrun : p.abort = none)
    (hworkers : 0 < p.workers.length) (hfinished : p.isFinished = true) : p.handedIn = total := by
  have hstopped : ∀ w ∈ p.workers, w = .stopped := by
    intro w hw
    have hstop := List.all_eq_true.1 hfinished w hw
    cases w with
    | stopped => rfl
    | _ => cases hstop
  have hidle : (p.workers.map (Worker.account files store₀)).sum = 0 := by
    refine List.sum_eq_zero fun a ha => ?_
    obtain ⟨w, hw, rfl⟩ := List.mem_map.1 ha
    rw [hstopped w hw]
    rfl
  obtain ⟨w, hw⟩ := List.exists_mem_of_length_pos hworkers
  have hqueue : p.queue = [] := h.emptied hrun (hstopped w hw ▸ hw)
  rw [← h.account hrun, Pool.account, hidle, hqueue]
  simp

theorem consistent_opening {jobs : List Job} (workers : Nat)
    (hstore : StoresAs files store₀ store₀) (hjobs : ∀ job ∈ jobs, job.observed.Readable) :
    Consistent files store₀ (jobs.map (Job.account files store₀)).sum
      (.opening workers jobs store₀) where
  store := hstore
  queue := hjobs
  workers w hw := by
    rw [List.eq_of_mem_replicate hw]
    trivial
  account _ := by
    have hidle :
        ((List.replicate workers Worker.idle).map (Worker.account files store₀)).sum = 0 := by
      simp [Worker.account]
    rw [Pool.account, Pool.opening, hidle]
    exact zero_add _
  aborted := nofun
  emptied _ hstopped := by
    cases List.eq_of_mem_replicate hstopped

end Pool
end ApiStubs.Batch
