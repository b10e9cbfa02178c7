import ApiStubs.Proofs.Batch.Pool
import ApiStubs.Proofs.Batch.Run

/-! Runs by several workers. However the workers take turns, the outcomes in the order of the classes
are those of a run of one class after the other, and the same is reported. -/

namespace ApiStubs.Batch

variable {files : FileTree} {store₀ : Option PageStore} {classes : List ObservedClass}
  {session : Session}

def jobsOf (e : Exclusions) (first : Nat) (classes : List ObservedClass) : List Job :=
  ((classes.zipIdx first).filter fun (c, _) => !e.lists c.name).map fun (c, i) => ⟨i, c⟩

def excludedOf (e : Exclusions) (first : Nat) (classes : List ObservedClass) :
    List (Nat × Outcome) :=
  (classes.zipIdx first).filterMap fun (c, i) =>
    if e.lists c.name then some (i, .excluded) else none

def excludedReports (e : Exclusions) (classes : List ObservedClass) : List Diagnostic :=
  (classes.filter fun c => e.lists c.name).map fun c => excludedReport c.name

theorem jobsOf_cons (e : Exclusions) (first : Nat) (c : ObservedClass)
    (rest : List ObservedClass) :
    jobsOf e first (c :: rest) =
      if e.lists c.name then jobsOf e (first + 1) rest
      else ⟨first, c⟩ :: jobsOf e (first + 1) rest := by
  cases hlists : e.lists c.name <;> simp [jobsOf, hlists]

theorem observed_of_mem_jobsOf {e : Exclusions} {first : Nat} {job : Job}
    (h : job ∈ jobsOf e first classes) : job.observed ∈ classes := by
  obtain ⟨⟨c, i⟩, hmem, rfl⟩ := List.mem_map.1 h
  exact List.fst_mem_of_mem_zipIdx (List.mem_filter.1 hmem).1

theorem excludedOf_cons (e : Exclusions) (first : Nat) (c : ObservedClass)
    (rest : List ObservedClass) :
    excludedOf e first (c :: rest) =
      if e.lists c.name then (first, .excluded) :: excludedOf e (first + 1) rest
      else excludedOf e (first + 1) rest := by
  cases hlists : e.lists c.name <;> simp [excludedOf, hlists]

theorem excludedReports_cons (e : Exclusions) (c : ObservedClass) (rest : List ObservedClass) :
    excludedReports e (c :: rest) =
      (if e.lists c.name then [excludedReport c.name] else []) ++ excludedReports e rest := by
  cases hlists : e.lists c.name <;> simp [excludedReports, hlists]

theorem enlist_run (first : Nat) (classes : List ObservedClass)
    (hpure : session.exclusions.isPure = true) :
    (enlist first classes).run session =
      ⟨.ok (excludedOf session.exclusions first classes, jobsOf session.exclusions first classes),
        excludedReports session.exclusions classes, session⟩ := by
  induction classes generalizing first with
  | nil => rfl
  | cons c rest ih =>
    have hexclude := exclude_run c.name session
    rw [Exclusions.check_of_isPure hpure] at hexclude
    rw [enlist, Traced.bind_run_ok _ hexclude, Traced.bind_run_ok _ (ih (first + 1)), jobsOf_cons,
      excludedOf_cons, excludedReports_cons]
    cases session.exclusions.lists c.name with
    | true => exact congrArg (Trace.mk _ · _) (congrArg _ (List.append_nil _))
    | false => exact congrArg (Trace.mk _ · _) (congrArg _ (List.append_nil _))

theorem lookup_of_mem {outcomes : List (Nat × Outcome)} (h : (outcomes.map Prod.fst).Nodup)
    {i : Nat} {outcome : Outcome} (hmem : (i, outcome) ∈ outcomes) :
    outcomes.lookup i = some outcome := by
  induction outcomes with
  | nil => cases hmem
  | cons o rest ih =>
    obtain ⟨hfresh, hrest⟩ := List.nodup_cons.1 h
    rcases List.mem_cons.1 hmem with rfl | hmem
    · exact List.lookup_cons_self
    · have hne : (i == o.1) = false := by
        rw [beq_eq_false_iff_ne]
        rintro rfl
        exact hfresh (List.mem_map.2 ⟨_, hmem, rfl⟩)
      rw [List.lookup_cons, hne]
      exact ih hrest hmem

theorem finish_run (outcomes : List (Text × Outcome)) {session' : Session}
    (h : session'.exclusions = session.exclusions) :
    ((finish outcomes).run session').result = ((finish outcomes).run session).result ∧
      ((finish outcomes).run session').reports = ((finish outcomes).run session).reports := by
  obtain ⟨e, store⟩ := session
  obtain ⟨e', store'⟩ := session'
  cases h
  exact ⟨rfl, rfl⟩

theorem share_run {drive : Pool → Pool} {workers : Nat} {jobs : List Job} {p : Pool}
    (hdrive : drive (.opening workers jobs session.store) = p) :
    (share drive workers jobs).run session =
      ⟨match p.abort with
        | none => .ok p.outcomes
        | some abort => .error abort, p.reports, { session with store := p.store }⟩ := by
  rw [← hdrive]
  rfl

theorem compileShared_run (classes : List ObservedClass) {drive : Pool → Pool} {workers : Nat}
    {p : Pool}
    (hpure : session.exclusions.isPure = true)
    (hdrive : drive (.opening workers (jobsOf session.exclusions 0 classes) session.store) = p) :
    (compileShared drive workers classes).run session =
      match p.abort with
      | some abort =>
          ⟨.error abort, excludedReports session.exclusions classes ++ p.reports,
            { session with store := p.store }⟩
      | none =>
          let outcomes := inOrder classes (excludedOf session.exclusions 0 classes ++ p.outcomes)
          let ending := (finish outcomes).run { session with store := p.store }
          ⟨ending.result,
            excludedReports session.exclusions classes ++ (p.reports ++ ending.reports),
            ending.state⟩ := by
  have hshare := share_run hdrive
  rw [compileShared, Traced.bind_run_ok _ (enlist_run 0 classes hpure)]
  dsimp only
  cases habort : p.abort with
  | some abort =>
    rw [habort] at hshare
    rw [Traced.bind_run_error _ hshare]
  | none =>
    rw [habort] at hshare
    rw [Traced.bind_run_ok _ hshare]

variable [Json.DepthLimit]

def classesAccount (files : FileTree) (store₀ : Option PageStore) (e : Exclusions) (first : Nat)
    (classes : List ObservedClass) : Account :=
  ((classes.zipIdx first).map fun (c, i) =>
    (visitVerdict files store₀ (e.lists c.name) c).account i).sum

theorem classesAccount_cons (e : Exclusions) (first : Nat) (c : ObservedClass)
    (rest : List ObservedClass) :
    classesAccount files store₀ e first (c :: rest) =
      (visitVerdict files store₀ (e.lists c.name) c).account first +
        classesAccount files store₀ e (first + 1) rest := by
  rw [classesAccount, List.zipIdx_cons, List.map_cons, List.sum_cons]
  rfl

theorem enlisted_account (e : Exclusions) (first : Nat) (classes : List ObservedClass) :
    settled (excludedOf e first classes) (excludedReports e classes) +
        ((jobsOf e first classes).map (Job.account files store₀)).sum =
      classesAccount files store₀ e first classes := by
  induction classes generalizing first with
  | nil => exact zero_add 0
  | cons c rest ih =>
    rw [classesAccount_cons, ← ih (first + 1), jobsOf_cons, excludedOf_cons, excludedReports_cons,
      visitVerdict]
    cases e.lists c.name with
    | true =>
      have hcons := settled_append [(first, .excluded)] (excludedOf e (first + 1) rest)
        [excludedReport c.name] (excludedReports e rest)
      exact (congrArg (· + _) hcons).trans (add_assoc _ _ _)
    | false =>
      exact (congrArg _ (List.sum_cons)).trans (add_left_comm _ _ _)

theorem classesAccount_eq (e : Exclusions) (first : Nat) (classes : List ObservedClass) :
    classesAccount files store₀ e first classes =
      (↑((classes.zipIdx first).map fun (c, i) =>
          (i, (visitVerdict files store₀ (e.lists c.name) c).1)),
        ↑(classes.flatMap fun c => (visitVerdict files store₀ (e.lists c.name) c).2)) := by
  have hreports : ((classes.zipIdx first).flatMap fun ci =>
      (visitVerdict files store₀ (e.lists ci.1.name) ci.1).2) =
        classes.flatMap fun c => (visitVerdict files store₀ (e.lists c.name) c).2 := by
    conv_rhs => rw [← List.zipIdx_map_fst first classes, List.flatMap_map]
  rw [← hreports]
  exact sum_account (classes.zipIdx first) Prod.snd _

theorem turns_of_isPure {e : Exclusions} (hpure : e.isPure = true)
    (classes : List ObservedClass) :
    turns files store₀ e classes =
      classes.map fun c => (c.name, visitVerdict files store₀ (e.lists c.name) c) := by
  induction classes with
  | nil => rfl
  | cons c rest ih => rw [turns, Exclusions.check_of_isPure hpure, ih, List.map_cons]

theorem forall₂_inOrder {e : Exclusions} {outcomes : List (Nat × Outcome)} (first : Nat)
    (h : ∀ c i, (c, i) ∈ classes.zipIdx first → ∃ outcome,
      (visitVerdict files store₀ (e.lists c.name) c).1 = .ok outcome ∧
        outcomes.lookup i = some outcome) :
    List.Forall₂ (fun c (o : Text × Outcome) => c.name = o.1 ∧
        (visitVerdict files store₀ (e.lists c.name) c).1 = .ok o.2)
      classes ((classes.zipIdx first).filterMap fun (c, i) =>
        (outcomes.lookup i).map (c.name, ·)) := by
  induction classes generalizing first with
  | nil => exact .nil
  | cons c rest ih =>
    rw [List.zipIdx_cons] at h ⊢
    obtain ⟨outcome, hverdict, hlookup⟩ := h c first List.mem_cons_self
    rw [List.filterMap_cons]
    simp only [hlookup, Option.map_some]
    exact .cons ⟨rfl, hverdict⟩ (ih (first + 1) fun d i hd => h d i (List.mem_cons_of_mem _ hd))

def Complete (files : FileTree) (store₀ : Option PageStore) (e : Exclusions)
    (classes : List ObservedClass) (outcomes : List (Nat × Outcome)) : Prop :=
  (outcomes.map fun o => (o.1, (Except.ok o.2 : Except Abort Outcome))).Perm
    ((classes.zipIdx 0).map fun (c, i) => (i, (visitVerdict files store₀ (e.lists c.name) c).1))

namespace Complete

variable {e : Exclusions} {outcomes : List (Nat × Outcome)}

theorem places (h : Complete files store₀ e classes outcomes) :
    (outcomes.map Prod.fst).Perm (List.range' 0 classes.length) := by
  have hplaces := h.map Prod.fst
  rw [List.map_map, List.map_map] at hplaces
  rw [← List.zipIdx_map_snd 0 classes]
  exact hplaces

theorem exists_outcome (h : Complete files store₀ e classes outcomes) {c : ObservedClass} {i : Nat}
    (hmem : (c, i) ∈ classes.zipIdx 0) :
    ∃ outcome, (visitVerdict files store₀ (e.lists c.name) c).1 = .ok outcome ∧
      outcomes.lookup i = some outcome := by
  have hnodup : (outcomes.map Prod.fst).Nodup := h.places.nodup_iff.2 List.nodup_range'
  have hthere := h.mem_iff.2 (List.mem_map.2 ⟨(c, i), hmem, rfl⟩)
  obtain ⟨⟨j, outcome⟩, houtcome, heq⟩ := List.mem_map.1 hthere
  obtain ⟨rfl, hverdict⟩ := Prod.mk.inj heq
  exact ⟨outcome, hverdict.symm, lookup_of_mem hnodup houtcome⟩

theorem inTurn_eq (h : Complete files store₀ e classes outcomes) (hpure : e.isPure = true) :
    (inTurn (turns files store₀ e classes)).1 = .ok (inOrder classes outcomes) := by
  rw [inTurn_eq_ok_iff, turns_of_isPure hpure, List.forall₂_map_left_iff]
  exact forall₂_inOrder 0 fun c i hmem => h.exists_outcome hmem

theorem exists_verdict (h : Complete files store₀ e classes outcomes) {c : ObservedClass}
    (hc : c ∈ classes) :
    ∃ outcome, (visitVerdict files store₀ (e.lists c.name) c).1 = .ok outcome := by
  obtain ⟨i, hi, rfl⟩ := List.getElem_of_mem hc
  have hmem : (classes[i], i) ∈ classes.zipIdx 0 :=
    List.mk_mem_zipIdx_iff_getElem?.2 (List.getElem?_eq_getElem hi)
  obtain ⟨outcome, hverdict, -⟩ := h.exists_outcome hmem
  exact ⟨outcome, hverdict⟩

end Complete

theorem compile_error {cause : Abort} {index : Nat} (hclasses : ∀ c ∈ classes, c.Readable)
    (hpure : session.exclusions.isPure = true)
    (hstore : StoresAs files session.store session.store)
    (h : (index, .error cause) ∈
      (classesAccount files session.store session.exclusions 0 classes).1) :
    ∃ abort, ((compile files classes).run session).result = .error abort := by
  obtain ⟨session', -, hrun⟩ := visitAll_run hclasses hstore
  rw [turns_of_isPure hpure] at hrun
  cases hresult : (inTurn (classes.map fun c =>
      (c.name, visitVerdict files session.store (session.exclusions.lists c.name) c))).1 with
  | error abort =>
    rw [hresult] at hrun
    exact ⟨abort, by rw [compile, Traced.bind_run_error _ hrun]⟩
  | ok outcomes =>
    rw [classesAccount_eq] at h
    obtain ⟨⟨c, i⟩, hmem, heq⟩ := List.mem_map.1 (Multiset.mem_coe.1 h)
    obtain ⟨rfl, hcause⟩ := Prod.mk.inj heq
    have hc : c ∈ classes := List.mem_of_getElem? (List.mk_mem_zipIdx_iff_getElem?.1 hmem)
    rw [inTurn_eq_ok_iff, List.forall₂_map_left_iff] at hresult
    obtain ⟨o, -, -, houtcome⟩ := exists_of_mem_forall₂ hresult.flip hc
    rw [hcause] at houtcome
    cases houtcome

namespace Pool.Consistent

variable {e : Exclusions} {p : Pool}

/-- With the excluded ones, the outcomes of workers who were not interrupted are all there are. -/
theorem complete
    (h : p.Consistent files store₀ ((jobsOf e 0 classes).map (Job.account files store₀)).sum)
    (hrun : p.abort = none) (hworkers : 0 < p.workers.length) (hfinished : p.isFinished = true) :
    Complete files store₀ e classes (excludedOf e 0 classes ++ p.outcomes) ∧
      (excludedReports e classes ++ p.reports).Perm
        (classes.flatMap fun c => (visitVerdict files store₀ (e.lists c.name) c).2) := by
  have haccount : settled (excludedOf e 0 classes ++ p.outcomes)
      (excludedReports e classes ++ p.reports) = classesAccount files store₀ e 0 classes := by
    rw [settled_append, ← enlisted_account, ← h.handedIn_eq hrun hworkers hfinished]
    rfl
  rw [classesAccount_eq] at haccount
  obtain ⟨houtcomes, hreports⟩ := Prod.ext_iff.1 haccount
  exact ⟨Multiset.coe_eq_coe.1 houtcomes, Multiset.coe_eq_coe.1 hreports⟩

theorem indices
    (h : p.Consistent files store₀ ((jobsOf e 0 classes).map (Job.account files store₀)).sum)
    (hrun : p.abort = none) (hworkers : 0 < p.workers.length) (hfinished : p.isFinished = true) :
    (p.outcomes.map Prod.fst).Perm
      ((classes.zipIdx.filter fun (c, _) => !e.lists c.name).map Prod.snd) := by
  have hhanded := (h.handedIn_eq hrun hworkers hfinished).trans
    (sum_account (jobsOf e 0 classes) Job.index fun job => classVerdict files store₀ job.observed)
  have hpairs := congrArg Prod.fst hhanded
  have hplaces := (Multiset.coe_eq_coe.1 hpairs).map Prod.fst
  rw [List.map_map, List.map_map, jobsOf, List.map_map] at hplaces
  exact hplaces

theorem exists_error {abort : Abort}
    (h : p.Consistent files store₀ ((jobsOf e 0 classes).map (Job.account files store₀)).sum)
    (habort : p.abort = some abort) :
    ∃ index cause, (index, .error cause) ∈ (classesAccount files store₀ e 0 classes).1 := by
  obtain ⟨index, cause, hcause⟩ := h.aborted abort habort
  refine ⟨index, cause, ?_⟩
  rw [← enlisted_account]
  exact Multiset.mem_add.2 (.inr hcause)

end Pool.Consistent

theorem compile_ok_of_complete {outcomes : List (Nat × Outcome)}
    (hclasses : ∀ c ∈ classes, c.Readable) (hpure : session.exclusions.isPure = true)
    (hstore : StoresAs files session.store session.store)
    (h : Complete files session.store session.exclusions classes outcomes) :
    ∃ session', session'.exclusions = session.exclusions ∧
      (visitAll files classes).run session =
        ⟨.ok (inOrder classes outcomes), classes.flatMap fun c =>
          (visitVerdict files session.store (session.exclusions.lists c.name) c).2, session'⟩ := by
  obtain ⟨session', hexclusions, hrun⟩ := visitAll_run hclasses hstore
  refine ⟨session', hexclusions hpure, ?_⟩
  rw [hrun, h.inTurn_eq hpure, inTurn_reports, turns_of_isPure hpure, List.flatMap_map]
  rw [turns_of_isPure hpure]
  intro t ht
  obtain ⟨c, hc, rfl⟩ := List.mem_map.1 ht
  exact h.exists_verdict hc

end ApiStubs.Batch

namespace ApiStubs

open Batch

/-- However the workers take turns until all have stopped, there is a result if and only if a run of
one class after the other gives one, and it is the same. Then every class that is not excluded was
handed in once, and the same was reported, in some order. -/
theorem concurrent_refines_sequential [Json.DepthLimit] {files : FileTree}
    {classes : List ObservedClass} {session : Session} {workers : Nat} {schedule : List Nat}
    (hclasses : ∀ c ∈ classes, c.Accepted)
    (hpure : session.exclusions.isPure = true)
    (hstore : ∀ s, session.store = some s → s.Opened)
    (hworkers : 0 < workers) :
    let drive : Pool → Pool := fun p => schedule.foldl (Pool.step files) p
    let p := drive (.opening workers (jobsOf session.exclusions 0 classes) session.store)
    let shared := (compileShared drive workers classes).run session
    let alone := (compile files classes).run session
    p.isFinished = true →
      shared.result.toOption = alone.result.toOption ∧
      ∀ r, alone.result = .ok r →
        (p.outcomes.map Prod.fst).Perm
          ((classes.zipIdx.filter fun (c, _) => !session.exclusions.lists c.name).map Prod.snd) ∧
        shared.reports.Perm alone.reports := by
  intro drive p shared alone hfinished
  have hreadable : ∀ c ∈ classes, c.Readable := fun c hc => (hclasses c hc).readable
  have hself : StoresAs files session.store session.store := storesAs_refl hstore
  have hconsistent : p.Consistent files session.store _ :=
    (Pool.consistent_opening workers hself fun job hjob =>
      hreadable _ (observed_of_mem_jobsOf hjob)).run schedule
  have hshared := compileShared_run classes hpure (show drive _ = p from rfl)
  cases habort : p.abort with
  | some abort =>
    obtain ⟨index, cause, hcause⟩ := hconsistent.exists_error habort
    obtain ⟨abort', halone⟩ := compile_error hreadable hpure hself hcause
    rw [habort] at hshared
    refine ⟨?_, fun r hr => ?_⟩
    · rw [show shared = _ from hshared, show alone.result = _ from halone]
      rfl
    · rw [show alone.result = _ from halone] at hr
      cases hr
  | none =>
    have hlength : 0 < p.workers.length := by
      rw [Pool.length_run]
      simpa [Pool.opening] using hworkers
    obtain ⟨hcomplete, hreports⟩ := hconsistent.complete habort hlength hfinished
    obtain ⟨session', hexclusions, halone⟩ :=
      compile_ok_of_complete hreadable hpure hself hcomplete
    have hcompile := Traced.bind_run_ok finish halone
    obtain ⟨hresult, hending⟩ := finish_run
      (inOrder classes (excludedOf session.exclusions 0 classes ++ p.outcomes)) hexclusions
    rw [habort] at hshared
    refine ⟨?_, fun r _ => ⟨hconsistent.indices habort hlength hfinished, ?_⟩⟩
    · rw [show shared = _ from hshared, show alone = _ from hcompile]
      exact congrArg Except.toOption hresult.symm
    · rw [show shared = _ from hshared, show alone = _ from hcompile]
      dsimp only
      rw [← List.append_assoc, hending]
      exact hreports.append_right _

attribute [local instance] Json.DepthLimit.usual

/-- Two workers look for the same page before either has kept it, and one class is excluded. -/
theorem concurrent_refines_sequential_same_page :
    let octets := fun s : String => s.toList.map fun ch => UInt8.ofNat ch.toNat
    let docs : Place := Place.working.enter (octets "docs")
    let files : FileTree := ⟨[(docs, .directory),
      (docs.enter (octets "Box.json"), .file (octets "\x7b\x22methods\x22: []\x7d"))]⟩
    let put : ObservedMethod := ⟨"put", [⟨⟨"int", []⟩, "end"⟩], ⟨"Any", []⟩, [], false⟩
    let classes : List ObservedClass :=
      [⟨"Box", [], [], [put]⟩, ⟨"Out", [], [], []⟩, ⟨"Box", [], [], [put, put]⟩]
    let session : Session := ⟨.ofNames ["Out"] false, some (.ofRoot (.ofText "docs"))⟩
    let schedule : List Nat := (List.replicate 8 [0, 1]).flatten
    let drive : Pool → Pool := fun p => schedule.foldl (Pool.step files) p
    let p := drive (.opening 2 (jobsOf session.exclusions 0 classes) session.store)
    let shared := (compileShared drive 2 classes).run session
    let alone := (compile files classes).run session
    (∀ c ∈ classes, c.Accepted) ∧ session.exclusions.isPure = true ∧
      (∀ s, session.store = some s → s.Opened) ∧ p.isFinished = true ∧
      alone.result.toOption.isSome = true ∧
      shared.result.toOption = alone.result.toOption ∧
      (p.outcomes.map Prod.fst).Perm [0, 2] ∧ shared.reports.Perm alone.reports := by
  intro octets docs files put classes session schedule drive p shared alone
  have hclasses : ∀ c ∈ classes, c.Accepted := by
    have hrecords : ∀ c ∈ classes,
        ((ObservedClass.check c.toJson).result "ReflectedClass").toOption = some c := by
      decide +kernel
    exact fun c hc => ObservedClass.accepted_of_record (hrecords c hc)
  have hpure : session.exclusions.isPure = true := rfl
  have hstore : ∀ s, session.store = some s → s.Opened := by
    rintro s hs
    cases hs
    exact PageStore.opened_ofRoot _
  have hfinished : p.isFinished = true := by decide +kernel
  have hsome : alone.result.toOption.isSome = true := by decide +kernel
  obtain ⟨r, hr⟩ := Option.isSome_iff_exists.1 hsome
  obtain ⟨hsame, hall⟩ :=
    concurrent_refines_sequential hclasses hpure hstore (by decide : 0 < 2) hfinished
  obtain ⟨hplaces, hreports⟩ := hall r (eq_ok_of_toOption hr)
  exact ⟨hclasses, hpure, hstore, hfinished, hsome, hsame, hplaces, hreports⟩

end ApiStubs
