import ApiStubs.Batch.Run

/-! A run by several workers that share one page store. Looking a page up, loading it and keeping it
are separate steps, between which other workers may act. -/

namespace ApiStubs.Batch

variable [Json.DepthLimit]

inductive Stage
  | start
  | lookUp (pagePath : Text)
  | load (pagePath : Text)
  | keep (pagePath : Text) (shelved : Shelved)
  | merge (pagePath : Text) (shelved : Option Shelved)

inductive Progress
  | going (stage : Stage)
  | done (outcome : Outcome)

def received (c : ObservedClass) (pagePath : Text) (answer : Except PageFault Shelved) :
    Compiling Progress := do
  return .going (.merge pagePath (← receive c.name pagePath answer))

def Stage.advance (files : FileTree) (c : ObservedClass) : Stage → Compiling Progress
  | .start => fun store =>
      match pagePath? c.name, store with
      | none, store => (Progress.done <$> withoutPagePath c.name).run store
      | some pagePath, none => ⟨.ok (.going (.merge pagePath none)), [], none⟩
      | some pagePath, some s => ⟨.ok (.going (.lookUp pagePath)), [], some s⟩
  | .lookUp pagePath => fun store =>
      match store.bind (·.kept? pagePath) with
      | some shelved => (received c pagePath (.ok shelved)).run store
      | none => ⟨.ok (.going (.load pagePath)), [], store⟩
  | .load pagePath => fun
      | none => ⟨.ok (.going (.merge pagePath none)), [], none⟩
      | some s =>
          match PageStore.load files s.root pagePath with
          | .error fault => (received c pagePath (.error fault)).run (some s)
          | .ok lookup =>
              let (shelved, s) := s.number lookup
              ⟨.ok (.going (.keep pagePath shelved)), [], some s⟩
  | .keep pagePath shelved => fun store =>
      (received c pagePath (.ok shelved)).run (store.map (·.keep pagePath shelved))
  | .merge pagePath shelved => Progress.done <$> mergeWith c pagePath shelved

structure Job where
  index : Nat
  observed : ObservedClass

/-- A worker that is through with a job holds its outcome until it hands it in. -/
inductive Worker
  | idle
  | busy (job : Job) (stage : Stage)
  | holding (job : Job) (outcome : Outcome)
  | stopped

def Worker.isStopped : Worker → Bool
  | .stopped => true
  | _ => false

structure Pool where
  queue : List Job
  workers : List Worker
  outcomes : List (Nat × Outcome)
  reports : List Diagnostic
  store : Option PageStore
  abort : Option Abort

namespace Pool

def set (p : Pool) (i : Nat) (w : Worker) : Pool := { p with workers := p.workers.set i w }

def take (p : Pool) (i : Nat) : Pool :=
  match p.queue with
  | [] => p.set i .stopped
  | job :: rest => { p.set i (.busy job .start) with queue := rest }

def work (files : FileTree) (p : Pool) (i : Nat) (job : Job) (stage : Stage) : Pool :=
  let trace := (stage.advance files job.observed).run p.store
  let p := { p with reports := p.reports ++ trace.reports, store := trace.state }
  match trace.result with
  | .ok (.going next) => p.set i (.busy job next)
  | .ok (.done outcome) => p.set i (.holding job outcome)
  | .error abort => { p.set i .stopped with abort := some abort }

def handIn (p : Pool) (i : Nat) (job : Job) (outcome : Outcome) : Pool :=
  { p.set i .idle with outcomes := (job.index, outcome) :: p.outcomes }

def step (files : FileTree) (p : Pool) (i : Nat) : Pool :=
  match p.workers[i]? with
  | some .idle => p.take i
  | some (.busy job stage) => p.work files i job stage
  | some (.holding job outcome) => p.handIn i job outcome
  | _ => p

def opening (workers : Nat) (jobs : List Job) (store : Option PageStore) : Pool :=
  ⟨jobs, List.replicate workers .idle, [], [], store, none⟩

def isFinished (p : Pool) : Bool := p.workers.all Worker.isStopped

def rounds (files : FileTree) : Nat → Pool → Pool
  | 0, p => p
  | n + 1, p =>
      if p.isFinished then p
      else rounds files n ((List.range p.workers.length).foldl (step files) p)

/-- A job takes at most seven steps from the queue to its outcome, and one round stops the worker. -/
def roundBound (jobs : Nat) : Nat := 7 * jobs + 1

def run (files : FileTree) (p : Pool) : Pool := rounds files (roundBound p.queue.length) p

end Pool

def enlist (index : Nat) : List ObservedClass → Running (List (Nat × Outcome) × List Job)
  | [] => return ([], [])
  | c :: rest => do
      let excluded ← exclude c.name
      let (outcomes, jobs) ← enlist (index + 1) rest
      if excluded then return ((index, .excluded) :: outcomes, jobs)
      else return (outcomes, ⟨index, c⟩ :: jobs)

def inOrder (classes : List ObservedClass) (outcomes : List (Nat × Outcome)) :
    List (Text × Outcome) :=
  classes.zipIdx.filterMap fun (c, i) => (outcomes.lookup i).map (c.name, ·)

/-- The jobs are shared among the workers, and `drive` says which of them takes which step. -/
def share (drive : Pool → Pool) (workers : Nat) (jobs : List Job) :
    Running (List (Nat × Outcome)) := fun session =>
  let p := drive (.opening workers jobs session.store)
  ⟨match p.abort with
    | none => .ok p.outcomes
    | some abort => .error abort,
    p.reports, { session with store := p.store }⟩

def compileShared (drive : Pool → Pool) (workers : Nat) (classes : List ObservedClass) :
    Running Compilation := do
  let (excluded, jobs) ← enlist 0 classes
  let outcomes ← share drive workers jobs
  finish (inOrder classes (excluded ++ outcomes))

inductive PoolFault
  | consuming
  | tooFew (workers : Int)
  | aborted (abort : Abort)

def PoolFault.message : PoolFault → Text
  | .consuming => "Concurrent compilation requires a non-consuming exclusion list"
  | .tooFew workers => "num_workers must be at least 1, got " ++ toString workers
  | .aborted abort => abort.message

def compileWith (files : FileTree) (workers : Int) (classes : List ObservedClass) :
    Traced Session PoolFault Compilation := fun session =>
  if !session.exclusions.isPure then ⟨.error .consuming, [], session⟩
  else if workers < 1 then ⟨.error (.tooFew workers), [], session⟩
  else
    let trace := (compileShared (Pool.run files) workers.toNat classes).run session
    { trace with result := trace.result.mapError .aborted }

end ApiStubs.Batch
