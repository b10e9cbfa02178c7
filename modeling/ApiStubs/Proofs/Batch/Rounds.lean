import ApiStubs.Proofs.Batch.Shared

/-! How long a pool runs. Each of its workers stops as soon as it has had its turn seven times for
every job and once more, so that a run in rounds always comes to an end, with the result of a run of
one class after the other. -/

namespace ApiStubs.Batch

variable {files : FileTree} {c : ObservedClass} {p : Pool} {limit : Nat → Nat}

def Stage.left : Stage → Nat
  | .start => 6
  | .lookUp _ => 5
  | .load _ => 4
  | .keep _ _ => 3
  | .merge _ _ => 2

namespace Stage

theorem left_of_received {pagePath : Text} {answer : Except PageFault Shelved}
    {store : Option PageStore} {next : Stage}
    (h : ((received c pagePath answer).run store).result = .ok (.going next)) :
    next.left = 2 := by
  obtain ⟨shelved, -, hnext⟩ := Traced.exists_of_bind_ok h
  cases hnext
  rfl

theorem not_going_of_done {x : Compiling Outcome} {store : Option PageStore} {next : Stage} :
    ((Progress.done <$> x).run store).result ≠ .ok (.going next) := by
  rw [Traced.map_run]
  rcases (x.run store).result with abort | outcome <;> exact nofun

theorem left_lt_of_going [Json.DepthLimit] {stage next : Stage} {store : Option PageStore}
    (h : ((stage.advance files c).run store).result = .ok (.going next)) :
    next.left < stage.left := by
  cases stage with
  | start =>
    rw [advance_start] at h
    split at h
    · exact absurd h not_going_of_done
    · cases h; simp [left]
    · cases h; simp [left]
  | lookUp pagePath =>
    rw [advance_lookUp] at h
    split at h
    · exact (left_of_received h).trans_lt (by simp [left])
    · cases h; simp [left]
  | load pagePath =>
    cases store with
    | none => cases h; simp [left]
    | some s =>
      rw [advance_load] at h
      split at h
      · exact (left_of_received h).trans_lt (by simp [left])
      · cases h; simp [left]
  | keep pagePath shelved => exact (left_of_received h).trans_lt (by simp [left])
  | merge pagePath shelved => exact absurd h not_going_of_done

theorem two_le_left (stage : Stage) : 2 ≤ stage.left := by
  cases stage <;> simp [left]

end Stage

/-- The most steps until the worker stops, should it have to do all that is waiting by itself. -/
def Worker.due (waiting : Nat) : Worker → Nat
  | .idle => 7 * waiting + 1
  | .busy _ stage => 7 * waiting + stage.left + 1
  | .holding _ _ => 7 * waiting + 2
  | .stopped => 0

theorem Worker.due_mono {few many : Nat} (h : few ≤ many) (w : Worker) :
    w.due few ≤ w.due many := by
  cases w <;> simp only [due] <;> omega

namespace Pool

def Due (p : Pool) (limit : Nat → Nat) : Prop :=
  ∀ i w, p.workers[i]? = some w → w.due p.queue.length ≤ limit i

theorem due_set {p' : Pool} {i : Nat} {w w' : Worker} (h : p.Due limit)
    (hw : p.workers[i]? = some w) (hworkers : p'.workers = p.workers.set i w')
    (hqueue : p'.queue.length ≤ p.queue.length)
    (hdue : w'.due p'.queue.length ≤ w.due p.queue.length - 1) :
    p'.Due fun j => limit j - [i].count j := by
  intro j v hv
  rw [hworkers, List.getElem?_set] at hv
  have hbefore := h i w hw
  by_cases hij : i = j
  · subst hij
    rw [if_pos rfl, if_pos (List.getElem?_eq_some_iff.1 hw).1] at hv
    cases hv
    dsimp only
    rw [List.count_singleton_self]
    omega
  · rw [if_neg hij] at hv
    dsimp only
    rw [List.count_singleton, if_neg (by simpa using hij)]
    exact ((v.due_mono hqueue).trans (h j v hv)).trans_eq (Nat.sub_zero _).symm

theorem due_same {i : Nat} (h : p.Due limit)
    (hstopped : ∀ w, p.workers[i]? = some w → w = .stopped) :
    p.Due fun j => limit j - [i].count j := by
  intro j w hw
  by_cases hij : i = j
  · subst hij
    rw [hstopped w hw]
    exact Nat.zero_le _
  · dsimp only
    rw [List.count_singleton, if_neg (by simpa using hij)]
    exact h j w hw

theorem Due.take {i : Nat} (h : p.Due limit) (hw : p.workers[i]? = some .idle) :
    (p.take i).Due fun j => limit j - [i].count j := by
  cases hqueue : p.queue with
  | nil =>
    rw [take_nil hqueue]
    exact due_set h hw rfl le_rfl (Nat.zero_le _)
  | cons job rest =>
    rw [take_cons hqueue]
    refine due_set h hw rfl (by simp [hqueue]) ?_
    simp only [Worker.due, Stage.left, hqueue, List.length_cons]
    omega

theorem due_opening (workers : Nat) (jobs : List Job) (store : Option PageStore) :
    (opening workers jobs store).Due fun _ => roundBound jobs.length := by
  intro i w hw
  rw [List.eq_of_mem_replicate (List.mem_of_getElem? hw)]
  exact le_rfl

theorem Due.isFinished (h : p.Due limit) (hlimit : ∀ i < p.workers.length, limit i = 0) :
    p.isFinished = true := by
  rw [Pool.isFinished, List.all_eq_true]
  intro w hw
  obtain ⟨i, hi⟩ := List.getElem?_of_mem hw
  have hnone := h i w hi
  rw [hlimit i (List.getElem?_eq_some_iff.1 hi).1] at hnone
  cases w <;> simp only [Worker.due, Worker.isStopped] at hnone ⊢ <;> omega

variable [Json.DepthLimit]

theorem Due.work {i : Nat} {job : Job} {stage : Stage} (h : p.Due limit)
    (hw : p.workers[i]? = some (.busy job stage)) :
    (p.work files i job stage).Due fun j => limit j - [i].count j := by
  rw [work_eq p i job rfl]
  rcases hresult : ((stage.advance files job.observed).run p.store).result with
    abort | next | outcome
  · exact due_set h hw rfl le_rfl (Nat.zero_le _)
  · refine due_set h hw rfl le_rfl ?_
    have hless := Stage.left_lt_of_going hresult
    change 7 * p.queue.length + next.left + 1 ≤ 7 * p.queue.length + stage.left + 1 - 1
    omega
  · refine due_set h hw rfl le_rfl ?_
    have htwo := stage.two_le_left
    change 7 * p.queue.length + 2 ≤ 7 * p.queue.length + stage.left + 1 - 1
    omega

theorem Due.step (h : p.Due limit) (i : Nat) :
    (p.step files i).Due fun j => limit j - [i].count j := by
  rw [Pool.step]
  split
  · exact h.take ‹_›
  · exact h.work ‹_›
  · refine due_set h ‹_› rfl le_rfl ?_
    simp only [Worker.due, Pool.handIn, Pool.set]
    omega
  · rename_i hidle hbusy hholding
    refine due_same h fun w hw => ?_
    cases w with
    | idle => exact absurd hw hidle
    | busy job stage => exact absurd hw (hbusy job stage)
    | holding job outcome => exact absurd hw (hholding job outcome)
    | stopped => rfl

theorem Due.run (h : p.Due limit) (schedule : List Nat) :
    (schedule.foldl (Pool.step files) p).Due fun j => limit j - schedule.count j := by
  induction schedule generalizing p limit with
  | nil => exact h
  | cons i rest ih =>
    intro j w hw
    have hdue := ih (h.step i) j w hw
    dsimp only at hdue ⊢
    rw [List.count_singleton, Nat.sub_sub, Nat.add_comm] at hdue
    rwa [List.count_cons]

theorem isFinished_of_turns {workers : Nat} {jobs : List Job} {store : Option PageStore}
    {schedule : List Nat}
    (h : ∀ i < workers, roundBound jobs.length ≤ schedule.count i) :
    (schedule.foldl (Pool.step files) (opening workers jobs store)).isFinished = true := by
  refine ((due_opening workers jobs store).run schedule).isFinished fun i hi => ?_
  rw [length_run, opening, List.length_replicate] at hi
  exact Nat.sub_eq_zero_of_le (h i hi)

theorem isFinished_rounds {n : Nat} (h : p.Due fun _ => n) :
    (rounds files n p).isFinished = true := by
  induction n generalizing p with
  | zero => exact h.isFinished fun _ _ => rfl
  | succ n ih =>
    rw [rounds]
    split_ifs with hfinished
    · exact hfinished
    · refine ih fun i w hw => ?_
      have hi : i < p.workers.length := by
        rw [← length_run p (List.range p.workers.length)]
        exact (List.getElem?_eq_some_iff.1 hw).1
      have hturn : (List.range p.workers.length).count i = 1 :=
        List.count_eq_one_of_mem List.nodup_range (List.mem_range.2 hi)
      have hdue := h.run (List.range p.workers.length) i w hw
      dsimp only at hdue
      rwa [hturn] at hdue

theorem exists_schedule (files : FileTree) (n : Nat) (p : Pool) :
    ∃ schedule : List Nat, rounds files n p = schedule.foldl (Pool.step files) p := by
  induction n generalizing p with
  | zero => exact ⟨[], rfl⟩
  | succ n ih =>
    rw [rounds]
    split_ifs
    · exact ⟨[], rfl⟩
    · obtain ⟨schedule, hschedule⟩ := ih ((List.range p.workers.length).foldl (Pool.step files) p)
      exact ⟨List.range p.workers.length ++ schedule, by rw [hschedule, List.foldl_append]⟩

theorem run_opening (files : FileTree) (workers : Nat) (jobs : List Job)
    (store : Option PageStore) :
    ∃ schedule : List Nat, (opening workers jobs store).run files =
        schedule.foldl (Pool.step files) (opening workers jobs store) ∧
      ((opening workers jobs store).run files).isFinished = true := by
  obtain ⟨schedule, hschedule⟩ :=
    exists_schedule files (roundBound jobs.length) (opening workers jobs store)
  exact ⟨schedule, hschedule, isFinished_rounds (due_opening workers jobs store)⟩

end Pool

theorem toOption_mapError {ε δ α : Type} (f : ε → δ) (x : Except ε α) :
    (x.mapError f).toOption = x.toOption := by
  cases x <;> rfl

variable [Json.DepthLimit] {classes : List ObservedClass} {session : Session}

/-- Workers who all stop give the result of one class after the other. -/
theorem compileShared_result {drive : Pool → Pool} {workers : Nat} {schedule : List Nat}
    (hclasses : ∀ c ∈ classes, c.Readable) (hpure : session.exclusions.isPure = true)
    (hstore : StoresAs files session.store session.store) (hworkers : 0 < workers)
    (hdrive : drive (.opening workers (jobsOf session.exclusions 0 classes) session.store) = p)
    (hp : p = schedule.foldl (Pool.step files)
      (.opening workers (jobsOf session.exclusions 0 classes) session.store))
    (hfinished : p.isFinished = true) :
    ((compileShared drive workers classes).run session).result.toOption =
      ((compile files classes).run session).result.toOption := by
  have hconsistent : p.Consistent files session.store _ := hp ▸
    (Pool.consistent_opening workers hstore fun job hjob =>
      hclasses _ (observed_of_mem_jobsOf hjob)).run schedule
  rw [compileShared_run classes hpure hdrive]
  cases habort : p.abort with
  | some abort =>
    obtain ⟨index, cause, hcause⟩ := hconsistent.exists_error habort
    obtain ⟨abort', halone⟩ := compile_error hclasses hpure hstore hcause
    rw [halone]
    rfl
  | none =>
    have hlength : 0 < p.workers.length := by
      rw [hp, Pool.length_run]
      simpa [Pool.opening] using hworkers
    obtain ⟨hcomplete, -⟩ := hconsistent.complete habort hlength hfinished
    obtain ⟨session', hexclusions, halone⟩ :=
      compile_ok_of_complete hclasses hpure hstore hcomplete
    rw [compile, Traced.bind_run_ok finish halone]
    exact congrArg Except.toOption (finish_run _ hexclusions).1.symm

theorem compileWith_run {workers : Int} (hpure : session.exclusions.isPure = true)
    (hworkers : 1 ≤ workers) :
    ((compileWith files workers classes).run session).result =
      ((compileShared (Pool.run files) workers.toNat classes).run session).result.mapError
        .aborted := by
  change (compileWith files workers classes session).result = _
  rw [compileWith, hpure, if_neg (by simp), if_neg (by omega)]

theorem compileWith_result {workers : Int} (hclasses : ∀ c ∈ classes, c.Readable)
    (hpure : session.exclusions.isPure = true)
    (hstore : StoresAs files session.store session.store) (hworkers : 1 ≤ workers) :
    ((compileWith files workers classes).run session).result.toOption =
      ((compile files classes).run session).result.toOption := by
  obtain ⟨schedule, hrun, hfinished⟩ := Pool.run_opening files workers.toNat
    (jobsOf session.exclusions 0 classes) session.store
  rw [compileWith_run hpure hworkers, toOption_mapError]
  exact compileShared_result hclasses hpure hstore (by omega) rfl hrun hfinished

theorem compileWith_eq_ok {workers : Int} {r : Compilation}
    (h : ((compileWith files workers classes).run session).result = .ok r) :
    session.exclusions.isPure = true ∧ 1 ≤ workers := by
  change (compileWith files workers classes session).result = _ at h
  rw [compileWith] at h
  split_ifs at h with hconsuming hfew
  exact ⟨by simpa using hconsuming, by omega⟩

end ApiStubs.Batch
