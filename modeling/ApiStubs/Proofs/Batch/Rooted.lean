import ApiStubs.Proofs.Batch.Shared
import ApiStubs.Proofs.Batch.Source
import ApiStubs.Proofs.Documented.PagePath
import ApiStubs.Proofs.Files.Tree

/-! Where runs read. The page of a class lies below the root unless the name of the class leads
outside, and then no root matters. So a run over names that stay inside depends on nothing but the
files below the root. -/

namespace ApiStubs

namespace PageStore

variable {className pagePath : Text} {root : Path} {files₁ files₂ : FileTree} {s : PageStore}

theorem exists_pageFile_eq (hpath : pagePath? className = some pagePath) :
    ∃ below : List Text, below ≠ [] ∧ Text.ofString ".." ∉ below ∧ ∀ root : Path,
      pageFile root pagePath = .ok (root ++ (⟨(Path.ofText pagePath).slashes, below⟩ : Path)) := by
  have hparent := not_mem_segments_of_pagePath? hpath
  have hne := segments_ne_nil_of_pagePath? hpath
  obtain ⟨above, name, hsegments⟩ := (List.eq_nil_or_concat _).resolve_left hne
  rw [List.concat_eq_append] at hsegments
  have hname : Path.ofText pagePath = ⟨(Path.ofText pagePath).slashes, above ++ [name]⟩ := by
    rw [← hsegments]
  have hfile := Path.withExtension?_concat (Path.ofText pagePath).slashes above name ".json"
  rw [← hname] at hfile
  refine ⟨above ++ [Path.cutExtension name ++ ".json"], by simp, ?_, fun root => ?_⟩
  · intro hmem
    rcases List.mem_append.1 hmem with hmem | hmem
    · exact hparent (hsegments ▸ List.mem_append_left _ hmem)
    · have hlast := congrArg List.getLast? (List.mem_singleton.1 hmem)
      rw [List.getLast?_append] at hlast
      cases hlast
  · rw [pageFile, hfile]

theorem exists_isUnder (hpath : pagePath? className = some pagePath)
    (hinside : leadsOutside className = false) (root : Path) :
    ∃ file, pageFile root pagePath = .ok file ∧ file.IsUnder root := by
  obtain ⟨below, hne, hparent, hfile⟩ := exists_pageFile_eq hpath
  rw [(slashes_eq_zero_iff_of_pagePath? hpath).2 hinside] at hfile
  exact ⟨_, hfile root, below, hne, hparent, Path.append_relative root below⟩

theorem exists_absolute (hpath : pagePath? className = some pagePath)
    (houtside : leadsOutside className = true) :
    ∃ file : Path, file.slashes ≠ 0 ∧ ∀ root, pageFile root pagePath = .ok file := by
  have hslashes : (Path.ofText pagePath).slashes ≠ 0 := by
    rw [Ne, slashes_eq_zero_iff_of_pagePath? hpath, houtside]
    exact Bool.noConfusion
  obtain ⟨below, -, -, hfile⟩ := exists_pageFile_eq hpath
  refine ⟨⟨(Path.ofText pagePath).slashes, below⟩, hslashes, fun root => ?_⟩
  rw [hfile, Path.append_absolute]
  exact hslashes

variable [Json.DepthLimit]

theorem load_eq (hpath : pagePath? className = some pagePath)
    (hinside : leadsOutside className = false) (hagree : FileTree.AgreeUnder root files₁ files₂) :
    load files₁ root pagePath = load files₂ root pagePath := by
  obtain ⟨file, hfile, hunder⟩ := exists_isUnder hpath hinside root
  have hread : readPage files₁ pagePath file = readPage files₂ pagePath file := by
    rw [readPage, readPage, hagree.readText_eq hunder]
  rw [load, load, hfile]
  change (Except.mapError _ (files₁.isFile file) >>= _) =
    (Except.mapError _ (files₂.isFile file) >>= _)
  rw [hagree.isFile_eq hunder, hread]

theorem fetch_eq (h : load files₁ s.root pagePath = load files₂ s.root pagePath) :
    s.fetch files₁ pagePath = s.fetch files₂ pagePath := by
  rw [fetch, fetch, h]

end PageStore

def ObservedClass.Inside (c : ObservedClass) : Prop :=
  ∀ pagePath, pagePath? c.name = some pagePath → leadsOutside c.name = false

namespace Batch

open Traced (Ensures Alike)

variable {c : ObservedClass} {classes : List ObservedClass} {files₁ files₂ : FileTree}
  {root : Path} {store : Option PageStore} {stage : Stage} {p : Pool}

def RootedAt (root : Path) (store : Option PageStore) : Prop := ∀ s ∈ store, s.root = root

theorem rootedAt_some_iff {s : PageStore} : RootedAt root (some s) ↔ s.root = root :=
  ⟨fun h => h s rfl, fun h _ hs => Option.some.inj hs ▸ h⟩

theorem ensures_withoutPagePath (className : Text) :
    Ensures (RootedAt root) (fun _ => True) (withoutPagePath className) :=
  .bind (.report _) fun _ _ => .pure trivial

theorem ensures_receive (className pagePath : Text) (answer : Except PageFault Shelved) :
    Ensures (RootedAt root) (fun _ => True) (receive className pagePath answer) := by
  rcases answer with (⟨path, problem⟩ | cause) | ⟨serial, page | reason⟩
  · exact .bind (.report _) fun _ _ => .pure trivial
  · exact .fail _
  · exact .pure trivial
  · exact .bind (.report _) fun _ _ => .pure trivial

theorem ensures_conclude (c : ObservedClass) (lookup : Lookup)
    (result : Except MergeFault ClassStub) :
    Ensures (RootedAt root) (fun _ => True) (conclude c lookup result) := by
  rcases result with (fault | fault) | stub
  · exact .bind (.report _) fun _ _ => .pure trivial
  · exact .fail _
  · exact .bind (.report _) fun _ _ => .pure trivial

theorem RootedAt.putBack (h : RootedAt root store) (pagePath : Text) (shelved : Option Shelved)
    (lookup : Lookup) : RootedAt root (putBack pagePath shelved lookup store) := by
  rcases shelved with - | old <;> rcases store with - | s
  · exact h
  · exact h
  · exact h
  · exact rootedAt_some_iff.2 ((s.root_update pagePath _).trans (h s rfl))

theorem ensures_mergeWith (c : ObservedClass) (pagePath : Text) (shelved : Option Shelved) :
    Ensures (RootedAt root) (fun _ => True) (mergeWith c pagePath shelved) := by
  intro store hstore
  rw [mergeWith_eq c pagePath shelved store rfl]
  exact ensures_conclude c _ _ _ (hstore.putBack pagePath shelved _)

section Sequential

variable [Json.DepthLimit] (hagree : FileTree.AgreeUnder root files₁ files₂)

include hagree

theorem alike_consult {pagePath : Text} (hpath : pagePath? c.name = some pagePath)
    (hc : c.Inside) : Alike (RootedAt root) (fun _ => True) (consult files₁ c.name pagePath)
      (consult files₂ c.name pagePath) := by
  have hrun (files : FileTree) (s : PageStore) : (consult files c.name pagePath).run (some s) =
      (receive c.name pagePath (s.fetch files pagePath).1).run
        (some (s.fetch files pagePath).2) := rfl
  constructor
  · rintro (- | s) hstore
    · exact ⟨hstore, fun _ _ => trivial⟩
    · rw [hrun]
      have hroot := (PageStore.root_fetch files₁ pagePath s).trans (hstore s rfl)
      exact ensures_receive _ _ _ _ (rootedAt_some_iff.2 hroot)
  · rintro (- | s) hstore
    · rfl
    · have hload := PageStore.load_eq hpath (hc pagePath hpath) hagree
      rw [hrun, hrun, PageStore.fetch_eq (hstore s rfl ▸ hload)]

theorem alike_compileClass (hc : c.Inside) :
    Alike (RootedAt root) (fun _ => True) (compileClass files₁ c) (compileClass files₂ c) := by
  rw [compileClass, compileClass]
  cases hpath : pagePath? c.name with
  | none => exact (ensures_withoutPagePath c.name).alike
  | some pagePath =>
    exact .bind (alike_consult hagree hpath hc) fun shelved _ =>
      (ensures_mergeWith c pagePath shelved).alike

theorem alike_visit (hc : c.Inside) :
    Alike (fun session => RootedAt root session.store) (fun _ => True) (visit files₁ c)
      (visit files₂ c) := by
  have hexclude : Ensures (fun session : Session => RootedAt root session.store)
      (fun _ => True) (exclude c.name) := fun _ hsession => ⟨hsession, fun _ _ => trivial⟩
  refine hexclude.alike.bind fun excluded _ => ?_
  cases excluded with
  | true => exact (Ensures.pure trivial).alike
  | false =>
    have hclass := alike_compileClass hagree hc
    refine ⟨fun session hsession => ⟨(hclass.ensures _ hsession).1, fun _ _ => trivial⟩, ?_⟩
    intro session hsession
    have honStore (files : FileTree) : (onStore (compileClass files c)).run session = _ :=
      onStore_run rfl session.exclusions
    rw [if_neg Bool.false_ne_true, if_neg Bool.false_ne_true, honStore, honStore,
      hclass.run_eq _ hsession]

theorem alike_visitAll (hclasses : ∀ c ∈ classes, c.Inside) :
    Alike (fun session => RootedAt root session.store) (fun _ => True)
      (visitAll files₁ classes) (visitAll files₂ classes) := by
  induction classes with
  | nil => exact (Ensures.pure trivial).alike
  | cons c rest ih =>
    obtain ⟨hc, hrest⟩ := List.forall_mem_cons.1 hclasses
    exact .bind (alike_visit hagree hc) fun outcome _ => .bind (ih hrest) fun others _ =>
      (Ensures.pure trivial).alike

theorem compile_run_eq (hclasses : ∀ c ∈ classes, c.Inside) {session : Session}
    (hsession : RootedAt root session.store) :
    (compile files₁ classes).run session = (compile files₂ classes).run session := by
  have hfinish (outcomes : List (Text × Outcome)) : Ensures
      (fun session : Session => RootedAt root session.store) (fun _ => True) (finish outcomes) :=
    fun _ hafter => ⟨hafter, fun _ _ => trivial⟩
  exact ((alike_visitAll hagree hclasses).bind fun _ _ => (hfinish _).alike).run_eq _ hsession

end Sequential

section Shared

def Stage.IsFor (className : Text) : Stage → Prop
  | .lookUp pagePath => pagePath? className = some pagePath
  | .load pagePath => pagePath? className = some pagePath
  | _ => True

def Progress.IsFor (className : Text) : Progress → Prop
  | .going next => next.IsFor className
  | .done _ => True

theorem ensures_received (c : ObservedClass) (pagePath : Text)
    (answer : Except PageFault Shelved) :
    Ensures (RootedAt root) (Progress.IsFor c.name) (received c pagePath answer) :=
  .bind (ensures_receive c.name pagePath answer) fun _ _ => .pure trivial

theorem ensures_done {x : Compiling Outcome} (className : Text)
    (h : Ensures (RootedAt root) (fun _ => True) x) :
    Ensures (RootedAt root) (Progress.IsFor className) (Progress.done <$> x) :=
  h.bind fun _ _ => .pure trivial

theorem ensured_going {next : Stage} {className : Text} (hstore : RootedAt root store)
    (hnext : next.IsFor className) :
    RootedAt root store ∧ ∀ progress : Progress,
      (Except.ok (.going next) : Except Abort Progress) = .ok progress →
        progress.IsFor className :=
  ⟨hstore, fun _ h => Except.ok.inj h ▸ hnext⟩

def Worker.Inside : Worker → Prop
  | .busy job stage => job.observed.Inside ∧ stage.IsFor job.observed.name
  | _ => True

namespace Pool

/-- The workers are at pages below the root, and so will they be. -/
structure Inside (root : Path) (p : Pool) : Prop where
  store : RootedAt root p.store
  queue : ∀ job ∈ p.queue, job.observed.Inside
  workers : ∀ w ∈ p.workers, w.Inside

theorem Inside.take (h : p.Inside root) (i : Nat) : (p.take i).Inside root := by
  cases hqueue : p.queue with
  | nil =>
    rw [take_nil hqueue]
    exact ⟨h.store, h.queue, forall_mem_set h.workers trivial⟩
  | cons job rest =>
    obtain ⟨hjob, hrest⟩ := List.forall_mem_cons.1 (hqueue ▸ h.queue)
    rw [take_cons hqueue]
    exact ⟨h.store, hrest, forall_mem_set h.workers ⟨hjob, trivial⟩⟩

theorem inside_opening {jobs : List Job} (workers : Nat) (hstore : RootedAt root store)
    (hjobs : ∀ job ∈ jobs, job.observed.Inside) : (opening workers jobs store).Inside root where
  store := hstore
  queue := hjobs
  workers w hw := by
    rw [List.eq_of_mem_replicate hw]
    trivial

end Pool

variable {session : Session} {workers : Nat}

theorem compileShared_run_eq {drive₁ drive₂ : Pool → Pool}
    (hdrive : ∀ p : Pool, p.Inside root → drive₁ p = drive₂ p)
    (hclasses : ∀ c ∈ classes, c.Inside) (hpure : session.exclusions.isPure = true)
    (hsession : RootedAt root session.store) :
    (compileShared drive₁ workers classes).run session =
      (compileShared drive₂ workers classes).run session := by
  have hopening :
      (Pool.opening workers (jobsOf session.exclusions 0 classes) session.store).Inside root :=
    Pool.inside_opening workers hsession fun job hjob =>
      hclasses _ (observed_of_mem_jobsOf hjob)
  rw [compileShared_run classes hpure (hdrive _ hopening), compileShared_run classes hpure rfl]

variable [Json.DepthLimit]

theorem ensures_advance (files : FileTree) (hstage : stage.IsFor c.name) :
    Ensures (RootedAt root) (Progress.IsFor c.name) (stage.advance files c) := by
  intro store hstore
  cases stage with
  | start =>
    rw [Stage.advance_start]
    cases hpath : pagePath? c.name with
    | none => exact ensures_done c.name (ensures_withoutPagePath c.name) store hstore
    | some pagePath =>
      cases store with
      | none => exact ensured_going hstore trivial
      | some s => exact ensured_going hstore hpath
  | lookUp pagePath =>
    rw [Stage.advance_lookUp]
    split
    · exact ensures_received c pagePath _ store hstore
    · exact ensured_going hstore hstage
  | load pagePath =>
    cases store with
    | none => exact ensured_going hstore trivial
    | some s =>
      rw [Stage.advance_load]
      split
      · exact ensures_received c pagePath _ (some s) hstore
      · rename_i lookup _
        have hroot : (s.number lookup).2.root = root := hstore s rfl
        exact ensured_going (rootedAt_some_iff.2 hroot) trivial
  | keep pagePath shelved =>
    refine ensures_received c pagePath (.ok shelved) (store.map (·.keep pagePath shelved)) ?_
    rintro s' hs'
    obtain ⟨s, hs, rfl⟩ := Option.map_eq_some_iff.1 hs'
    exact hstore s hs
  | merge pagePath shelved =>
    exact ensures_done c.name (ensures_mergeWith c pagePath shelved) store hstore

theorem advance_run_eq (hagree : FileTree.AgreeUnder root files₁ files₂) (hc : c.Inside)
    (hstage : stage.IsFor c.name) (hstore : RootedAt root store) :
    (stage.advance files₁ c).run store = (stage.advance files₂ c).run store := by
  cases stage with
  | load pagePath =>
    cases store with
    | none => rfl
    | some s =>
      have hload := PageStore.load_eq hstage (hc pagePath hstage) hagree
      rw [Stage.advance_load, Stage.advance_load, hstore s rfl, hload]
  | _ => rfl

namespace Pool

theorem Inside.work (h : p.Inside root) (files : FileTree) (i : Nat) {job : Job}
    (hjob : job.observed.Inside) (hstage : stage.IsFor job.observed.name) :
    (p.work files i job stage).Inside root := by
  obtain ⟨hstore, hresult⟩ := ensures_advance files hstage p.store h.store
  generalize htrace : (stage.advance files job.observed).run p.store = trace at hstore hresult
  rw [work_eq p i job htrace]
  rcases hprogress : trace.result with abort | next | outcome
  · exact ⟨hstore, h.queue, forall_mem_set h.workers trivial⟩
  · exact ⟨hstore, h.queue, forall_mem_set h.workers ⟨hjob, hresult _ hprogress⟩⟩
  · exact ⟨hstore, h.queue, forall_mem_set h.workers trivial⟩

theorem Inside.step (h : p.Inside root) (files : FileTree) (i : Nat) :
    (p.step files i).Inside root := by
  rw [Pool.step]
  split
  · exact h.take i
  · rename_i job stage hw
    obtain ⟨hjob, hstage⟩ := h.workers _ (List.mem_of_getElem? hw)
    exact h.work files i hjob hstage
  · exact ⟨h.store, h.queue, forall_mem_set h.workers trivial⟩
  · exact h

theorem Inside.step_eq (h : p.Inside root) (hagree : FileTree.AgreeUnder root files₁ files₂)
    (i : Nat) : p.step files₁ i = p.step files₂ i := by
  rw [Pool.step, Pool.step]
  split
  · rfl
  · rename_i job stage hw
    obtain ⟨hjob, hstage⟩ := h.workers _ (List.mem_of_getElem? hw)
    rw [work_eq p i job (advance_run_eq hagree hjob hstage h.store), work_eq p i job rfl]
  · rfl
  · rfl

theorem Inside.foldl (h : p.Inside root) (files : FileTree) (schedule : List Nat) :
    (schedule.foldl (Pool.step files) p).Inside root := by
  induction schedule generalizing p with
  | nil => exact h
  | cons i rest ih => exact ih (h.step files i)

theorem Inside.foldl_eq (h : p.Inside root) (hagree : FileTree.AgreeUnder root files₁ files₂)
    (schedule : List Nat) :
    schedule.foldl (Pool.step files₁) p = schedule.foldl (Pool.step files₂) p := by
  induction schedule generalizing p with
  | nil => rfl
  | cons i rest ih =>
    rw [List.foldl_cons, List.foldl_cons, ← h.step_eq hagree i]
    exact ih (h.step files₁ i)

theorem Inside.rounds_eq (h : p.Inside root) (hagree : FileTree.AgreeUnder root files₁ files₂)
    (n : Nat) : rounds files₁ n p = rounds files₂ n p := by
  induction n generalizing p with
  | zero => rfl
  | succ n ih =>
    rw [rounds, rounds, ← h.foldl_eq hagree]
    split_ifs
    · rfl
    · exact ih (h.foldl files₁ _)

theorem Inside.run_eq (h : p.Inside root) (hagree : FileTree.AgreeUnder root files₁ files₂) :
    p.run files₁ = p.run files₂ := h.rounds_eq hagree _

end Pool

theorem compileWith_run_eq (hagree : FileTree.AgreeUnder root files₁ files₂)
    (hclasses : ∀ c ∈ classes, c.Inside) (hsession : RootedAt root session.store)
    (workers : Int) :
    (compileWith files₁ workers classes).run session =
      (compileWith files₂ workers classes).run session := by
  have hrun (files : FileTree) : (compileWith files workers classes).run session =
      if !session.exclusions.isPure then ⟨.error .consuming, [], session⟩
      else if workers < 1 then ⟨.error (.tooFew workers), [], session⟩
      else
        let trace := (compileShared (Pool.run files) workers.toNat classes).run session
        { trace with result := trace.result.mapError .aborted } := rfl
  rw [hrun, hrun]
  split_ifs with hconsuming
  · rfl
  · rfl
  · have hpure : session.exclusions.isPure = true := by simpa using hconsuming
    have hshared : (compileShared (Pool.run files₁) workers.toNat classes).run session =
        (compileShared (Pool.run files₂) workers.toNat classes).run session :=
      compileShared_run_eq (fun p hp => hp.run_eq hagree) hclasses hpure hsession
    rw [hshared]

end Shared

end Batch

open Batch

/-- No class path goes up. It is relative, and the file below every root, if and only if the name of
the class does not lead outside; then whoever loads the page reads nothing but files below the root.
Otherwise the file is the same for every root. A run over names that stay inside reads nothing but
files below the root. -/
theorem class_page_lies_below_roots_iff [Json.DepthLimit] {className pagePath : Text}
    (hpath : pagePath? className = some pagePath) :
    Text.ofString ".." ∉ (Path.ofText pagePath).segments ∧
    ((Path.ofText pagePath).slashes = 0 ↔ leadsOutside className = false) ∧
    ((∀ root, ∃ file, PageStore.pageFile root pagePath = .ok file ∧ file.IsUnder root) ↔
      leadsOutside className = false) ∧
    (leadsOutside className = false → ∀ root files₁ files₂,
      FileTree.AgreeUnder root files₁ files₂ →
        PageStore.load files₁ root pagePath = PageStore.load files₂ root pagePath) ∧
    (leadsOutside className = true →
      ∃ file : Path, file.slashes ≠ 0 ∧ ∀ root, PageStore.pageFile root pagePath = .ok file) ∧
    ∀ root files₁ files₂, FileTree.AgreeUnder root files₁ files₂ →
      ∀ classes : List ObservedClass, (∀ c ∈ classes, c.Inside) →
      ∀ session : Session, RootedAt root session.store →
        (compile files₁ classes).run session = (compile files₂ classes).run session ∧
        (∀ workers, (compileWith files₁ workers classes).run session =
          (compileWith files₂ workers classes).run session) ∧
        (session.exclusions.isPure = true → ∀ workers (schedule : List Nat),
          (compileShared (fun p => schedule.foldl (Pool.step files₁) p) workers classes).run
              session =
            (compileShared (fun p => schedule.foldl (Pool.step files₂) p) workers classes).run
              session) := by
  refine ⟨not_mem_segments_of_pagePath? hpath, slashes_eq_zero_iff_of_pagePath? hpath,
    ⟨fun hunder => ?_, PageStore.exists_isUnder hpath⟩, fun hinside root files₁ files₂ => ?_,
    PageStore.exists_absolute hpath, fun root files₁ files₂ hagree classes hclasses session
    hsession => ⟨?_, fun workers => ?_, fun hpure workers schedule => ?_⟩⟩
  · rw [← Bool.not_eq_true]
    intro houtside
    obtain ⟨file, hslashes, hfile⟩ := PageStore.exists_absolute hpath houtside
    -- the file is not below the working directory
    obtain ⟨file', hfile', below, -, -, rfl⟩ := hunder (.ofText "")
    rw [hfile, Except.ok.injEq] at hfile'
    exact hslashes (congrArg Path.slashes hfile')
  · exact PageStore.load_eq hpath hinside
  · exact compile_run_eq hagree hclasses hsession
  · exact compileWith_run_eq hagree hclasses hsession workers
  · exact compileShared_run_eq (fun p hp => hp.foldl_eq hagree schedule) hclasses hpure hsession

attribute [local instance] Json.DepthLimit.usual

/-- A nested class in a package, and a class of which the package is an empty name. -/
theorem class_page_lies_below_roots_iff_two_names :
    let octets := fun s : String => s.toList.map fun ch => UInt8.ofNat ch.toNat
    let docs : Place := Place.working.enter (octets "docs")
    let files : FileTree := ⟨[(docs, .directory), (docs.enter (octets "a"), .directory),
      ((docs.enter (octets "a")).enter (octets "B.C.json"), .file (octets "\x7b\x7d"))]⟩
    let more : FileTree := files.put ⟨.top, [octets "B.json"]⟩ (.file (octets "\x7b\x7d"))
    let root : Path := .ofText "docs"
    let classes : List ObservedClass := [⟨" a.B$C", [], [], []⟩]
    let session : Session := ⟨.ofNames [] false, some (.ofRoot root)⟩
    pagePath? " a.B$C" = some "a/B.C.html" ∧ leadsOutside " a.B$C" = false ∧
      (∃ file, PageStore.pageFile root "a/B.C.html" = .ok file ∧ file.IsUnder root) ∧
      pagePath? "..B" = some "//B.html" ∧ leadsOutside "..B" = true ∧
      (∃ file : Path, file.slashes ≠ 0 ∧
        ∀ root, PageStore.pageFile root "//B.html" = .ok file) ∧
      FileTree.AgreeUnder root files more ∧ (∀ c ∈ classes, c.Inside) ∧
      RootedAt root session.store ∧ session.exclusions.isPure = true ∧
      (compile files classes).run session = (compile more classes).run session := by
  intro octets docs files more root classes session
  have hinside : leadsOutside " a.B$C" = false := by decide
  have houtside : leadsOutside "..B" = true := by decide
  have hnested : pagePath? " a.B$C" = some "a/B.C.html" := by decide
  have hempty : pagePath? "..B" = some "//B.html" := by decide
  have hagree : FileTree.AgreeUnder root files more := FileTree.agreeUnder_put_top rfl rfl _ _
  have hclasses : ∀ c ∈ classes, c.Inside := by
    intro c hc pagePath _
    rw [List.mem_singleton.1 hc]
    exact hinside
  have hsession : RootedAt root session.store := rootedAt_some_iff.2 rfl
  obtain ⟨-, -, hbelow, -, -, hruns⟩ := class_page_lies_below_roots_iff hnested
  obtain ⟨-, -, -, -, habsolute, -⟩ := class_page_lies_below_roots_iff hempty
  exact ⟨hnested, hinside, hbelow.2 hinside root, hempty, houtside, habsolute houtside,
    hagree, hclasses, hsession, rfl, (hruns root _ _ hagree classes hclasses session hsession).1⟩

/-- A class of which the package is an empty name, in a store rooted at `docs`: its page is loaded
from the top. -/
theorem empty_package_leads_outside :
    let octets := fun s : String => s.toList.map fun ch => UInt8.ofNat ch.toNat
    let files : FileTree := ⟨[(⟨.top, [octets "B.json"]⟩, .file (octets "\x7b\x7d"))]⟩
    let root : Path := .ofText "docs"
    pagePath? "..B" = some "//B.html" ∧
      PageStore.pageFile root "//B.html" = .ok ⟨2, [Text.ofString "B.json"]⟩ ∧
      ¬(⟨2, [Text.ofString "B.json"]⟩ : Path).IsUnder root ∧
      (PageStore.load files root "//B.html").toOption.bind PageStore.pageName? =
        some (Text.ofString "B") := by
  intro octets files root
  refine ⟨by decide, rfl, ?_, by decide +kernel⟩
  rintro ⟨below, -, -, hfile⟩
  cases hfile

end ApiStubs
