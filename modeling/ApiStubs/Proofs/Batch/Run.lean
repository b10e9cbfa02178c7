import ApiStubs.Batch.Run
import ApiStubs.Proofs.Batch.Outcome
import ApiStubs.Proofs.Exclusions

/-! Runs over all exposed classes. No class that validation accepts ends a run, whatever its name, its
members and its page are. -/

namespace ApiStubs.Batch

variable {c : ObservedClass} {classes : List ObservedClass} {files : FileTree}
  {store₀ : Option PageStore} {session : Session}

theorem exclude_run (className : Text) (session : Session) :
    (exclude className).run session =
      ⟨.ok (session.exclusions.check className).1,
        if (session.exclusions.check className).1 then [excludedReport className] else [],
        { session with exclusions := (session.exclusions.check className).2 }⟩ := rfl

theorem onStore_run {α : Type} {x : Compiling α} {store : Option PageStore}
    {trace : Trace (Option PageStore) Abort α} (h : x.run store = trace) (e : Exclusions) :
    (onStore x).run ⟨e, store⟩ = ⟨trace.result, trace.reports, ⟨e, trace.state⟩⟩ := by
  rw [← h]
  rfl

/-- The first that cannot go on is the last. -/
def inTurn : List (Text × Verdict) → Except Abort (List (Text × Outcome)) × List Diagnostic
  | [] => (.ok [], [])
  | (_, .error abort, reports) :: _ => (.error abort, reports)
  | (name, .ok outcome, reports) :: rest =>
      ((inTurn rest).1.map ((name, outcome) :: ·), reports ++ (inTurn rest).2)

theorem inTurn_eq_ok_iff {ts : List (Text × Verdict)} {outcomes : List (Text × Outcome)} :
    (inTurn ts).1 = .ok outcomes ↔
      List.Forall₂ (fun t o => t.1 = o.1 ∧ t.2.1 = .ok o.2) ts outcomes := by
  induction ts generalizing outcomes with
  | nil => simp [inTurn, eq_comm]
  | cons t rest ih =>
    obtain ⟨name, abort | outcome, reports⟩ := t
    · simp [inTurn, List.forall₂_cons_left_iff]
    · rw [inTurn, List.forall₂_cons_left_iff]
      constructor
      · intro h
        cases hrest : (inTurn rest).1 with
        | error abort => rw [hrest] at h; cases h
        | ok others =>
          rw [hrest] at h
          cases h
          exact ⟨_, _, ⟨rfl, rfl⟩, ih.1 hrest, rfl⟩
      · rintro ⟨⟨name', outcome'⟩, others, ⟨hname, houtcome⟩, hrest, rfl⟩
        cases hname
        cases houtcome
        rw [ih.2 hrest]
        rfl

theorem inTurn_reports {ts : List (Text × Verdict)}
    (h : ∀ t ∈ ts, ∃ outcome, t.2.1 = .ok outcome) : (inTurn ts).2 = ts.flatMap fun t => t.2.2 := by
  induction ts with
  | nil => rfl
  | cons t rest ih =>
    obtain ⟨name, result, reports⟩ := t
    obtain ⟨outcome, rfl⟩ : ∃ outcome, result = .ok outcome := h _ List.mem_cons_self
    rw [inTurn, ih fun t ht => h t (List.mem_cons_of_mem _ ht), List.flatMap_cons]

variable [Json.DepthLimit]

def visitVerdict (files : FileTree) (store₀ : Option PageStore) (excluded : Bool)
    (c : ObservedClass) : Verdict :=
  if excluded then (.ok .excluded, [excludedReport c.name]) else classVerdict files store₀ c

theorem visitVerdict_of_answer {s₀ : PageStore} {c : ObservedClass} {pagePath : Text} {l : Lookup}
    {outcome : Outcome} (hpath : pagePath? c.name = some pagePath)
    (hanswer : s₀.answer files pagePath = .ok l) (h : (mergeVerdict c l).1 = .ok outcome) :
    (visitVerdict files (some s₀) false c).1 = .ok outcome := by
  rw [visitVerdict, if_neg Bool.false_ne_true, classVerdict, hpath]
  dsimp only [pageVerdict]
  rw [hanswer]
  exact h

theorem visit_run (hc : c.Readable) (hstore : StoresAs files store₀ session.store) :
    ∃ store', StoresAs files store₀ store' ∧
      (visit files c).run session =
        ⟨(visitVerdict files store₀ (session.exclusions.check c.name).1 c).1,
          (visitVerdict files store₀ (session.exclusions.check c.name).1 c).2,
          ⟨(session.exclusions.check c.name).2, store'⟩⟩ := by
  have hexclude := exclude_run c.name session
  rw [visit, visitVerdict]
  cases hcheck : (session.exclusions.check c.name).1 with
  | true =>
    rw [hcheck] at hexclude
    exact ⟨session.store, hstore, by rw [Traced.bind_run_ok _ hexclude]; rfl⟩
  | false =>
    rw [hcheck] at hexclude
    obtain ⟨store', hstore', hrun⟩ := compileClass_verdict hc hstore
    refine ⟨store', hstore', ?_⟩
    rw [Traced.bind_run_ok _ hexclude]
    simp only [Bool.false_eq_true, if_false]
    rw [onStore_run hrun]
    rfl

/-- Every page that a class asks for can be had, or what is wrong concerns this page alone. -/
def PagesAccessible (files : FileTree) (store : Option PageStore) (c : ObservedClass) : Prop :=
  ∀ s, store = some s → ∀ pagePath, pagePath? c.name = some pagePath →
    PageStore.Accessible files s.root pagePath

theorem exists_classVerdict (hc : c.Readable) (haccess : PagesAccessible files store₀ c) :
    ∃ outcome, (classVerdict files store₀ c).1 = .ok outcome := by
  rw [classVerdict]
  cases hpath : pagePath? c.name with
  | none => exact ⟨_, rfl⟩
  | some pagePath =>
    cases store₀ with
    | none => exact exists_mergeVerdict hc rfl
    | some s₀ =>
      refine exists_verdictOn hc (fun l => PageStore.fresh_of_answer) fun cause hcrash => ?_
      rw [PageStore.answer] at hcrash
      split at hcrash
      · cases hcrash
      · obtain ⟨problem, hfailed⟩ :=
          PageStore.failed_of_load hpath (haccess s₀ rfl pagePath hpath) hcrash
        cases hfailed

def turns (files : FileTree) (store₀ : Option PageStore) :
    Exclusions → List ObservedClass → List (Text × Verdict)
  | _, [] => []
  | e, c :: rest =>
      (c.name, visitVerdict files store₀ (e.check c.name).1 c) ::
        turns files store₀ (e.check c.name).2 rest

theorem visitAll_run (hclasses : ∀ c ∈ classes, c.Readable)
    (hstore : StoresAs files store₀ session.store) :
    ∃ session', (session.exclusions.isPure = true → session'.exclusions = session.exclusions) ∧
      (visitAll files classes).run session =
        ⟨(inTurn (turns files store₀ session.exclusions classes)).1,
          (inTurn (turns files store₀ session.exclusions classes)).2, session'⟩ := by
  induction classes generalizing session with
  | nil => exact ⟨session, fun _ => rfl, rfl⟩
  | cons c rest ih =>
    obtain ⟨store', hstore', hrun⟩ := visit_run (hclasses c List.mem_cons_self) hstore
    rw [turns, visitAll]
    rcases hverdict : visitVerdict files store₀ (session.exclusions.check c.name).1 c with
      ⟨abort | outcome, reports⟩
    · rw [hverdict] at hrun
      refine ⟨_, fun hpure => ?_, Traced.bind_run_error _ hrun⟩
      rw [Exclusions.check_of_isPure hpure]
    · rw [hverdict] at hrun
      have hafter : StoresAs files store₀
        (Session.mk (session.exclusions.check c.name).2 store').store := hstore'
      obtain ⟨session', hexclusions, hrest⟩ :=
        ih (fun d hd => hclasses d (List.mem_cons_of_mem _ hd)) hafter
      refine ⟨session', fun hpure => ?_, ?_⟩
      · rw [Exclusions.check_of_isPure hpure] at hexclusions
        exact hexclusions hpure
      · rw [Traced.bind_run_ok _ hrun, inTurn, Traced.bind_pure_run, hrest]

theorem exists_visitVerdict (h : ∃ outcome, (classVerdict files store₀ c).1 = .ok outcome)
    (excluded : Bool) : ∃ outcome, (visitVerdict files store₀ excluded c).1 = .ok outcome := by
  rw [visitVerdict]
  split_ifs
  · exact ⟨_, rfl⟩
  · exact h

theorem exists_turns
    (hverdicts : ∀ c ∈ classes, ∃ outcome, (classVerdict files store₀ c).1 = .ok outcome)
    (e : Exclusions) : ∃ outcomes, (inTurn (turns files store₀ e classes)).1 = .ok outcomes := by
  simp only [inTurn_eq_ok_iff]
  induction classes generalizing e with
  | nil => exact ⟨[], .nil⟩
  | cons c rest ih =>
    obtain ⟨outcome, houtcome⟩ :=
      exists_visitVerdict (hverdicts c List.mem_cons_self) (e.check c.name).1
    obtain ⟨outcomes, houtcomes⟩ :=
      ih (fun d hd => hverdicts d (List.mem_cons_of_mem _ hd)) (e.check c.name).2
    exact ⟨(c.name, outcome) :: outcomes, .cons ⟨rfl, houtcome⟩ houtcomes⟩

theorem compile_ok_of_verdicts (hclasses : ∀ c ∈ classes, c.Readable)
    (hverdicts : ∀ c ∈ classes, ∃ outcome, (classVerdict files session.store c).1 = .ok outcome)
    (hstore : StoresAs files session.store session.store) :
    ∃ r, ((compile files classes).run session).result = .ok r := by
  obtain ⟨session', -, hrun⟩ := visitAll_run hclasses hstore
  obtain ⟨outcomes, houtcomes⟩ := exists_turns hverdicts session.exclusions
  rw [houtcomes] at hrun
  rw [compile, Traced.bind_run_ok _ hrun]
  exact ⟨_, rfl⟩

theorem compile_ok (hclasses : ∀ c ∈ classes, c.Readable)
    (haccess : ∀ c ∈ classes, PagesAccessible files session.store c)
    (hstore : StoresAs files session.store session.store) :
    ∃ r, ((compile files classes).run session).result = .ok r :=
  compile_ok_of_verdicts hclasses (fun c hc => exists_classVerdict (hclasses c hc) (haccess c hc))
    hstore

theorem storesAs_refl (h : ∀ s, session.store = some s → s.Opened) :
    StoresAs files session.store session.store := by
  cases hstore : session.store with
  | none => trivial
  | some s => exact .refl (h s hstore).sound

end ApiStubs.Batch

namespace ApiStubs

open Batch

/-- No run over accepted classes ends early. The page of a class always has a file name, a fault in
loading it concerns this page alone, every member that was observed can be made, and merging over any
page stops only at a section of the page that cannot be read. -/
theorem batch_never_aborts [Json.DepthLimit] {files : FileTree} {classes : List ObservedClass}
    {session : Session} (hclasses : ∀ c ∈ classes, c.Accepted)
    (hstore : ∀ s, session.store = some s → s.Opened)
    (haccess : ∀ c ∈ classes, PagesAccessible files session.store c) :
    (∃ r, ((compile files classes).run session).result = .ok r) ∧
      (∀ c ∈ classes, ∀ pagePath, pagePath? c.name = some pagePath →
        (∀ root, ∃ file, PageStore.pageFile root pagePath = .ok file) ∧
        ∀ s, session.store = some s → ∀ fault,
          PageStore.load files s.root pagePath = .error fault →
            ∃ problem, fault = .failed pagePath problem) ∧
      ∀ c ∈ classes,
        (∀ f ∈ c.fields, (∃ r, f.toField = .ok r) ∧ ∃ r, Merge.placeholder f = .ok r) ∧
        (∀ m ∈ c.methods, ∃ r, m.toMethod = .ok r) ∧
        ∀ l : Lookup, l.Opened → ∀ fault, ((Merge.wholeClass c).run l).result = .error fault →
          ∃ detail, fault = .detail detail := by
  have hreadable : ∀ c ∈ classes, c.Readable := fun c hc => (hclasses c hc).readable
  refine ⟨compile_ok hreadable haccess (storesAs_refl hstore), fun c hc pagePath hpath => ⟨?_, ?_⟩,
    fun c hc => ⟨fun f hf => ⟨?_, ?_⟩, fun m hm => ?_, fun l hl fault hfault => ?_⟩⟩
  · exact PageStore.exists_pageFile hpath
  · intro s hs fault hload
    exact PageStore.failed_of_load hpath (haccess c hc s hs pagePath hpath) hload
  · exact ⟨_, ((hreadable c hc).fields f hf).toField_eq⟩
  · exact ⟨_, Merge.placeholder_eq ((hreadable c hc).fields f hf)⟩
  · obtain ⟨params, -, hmade⟩ := ((hreadable c hc).methods m hm).exists_toMethod
    exact ⟨_, hmade⟩
  · obtain ⟨observed, hobserved⟩ := Merge.exists_observed (hreadable c hc)
    obtain ⟨result, reports, hsettles, hruns⟩ :=
      Merge.wholeClass_reads l.sound_fresh (hreadable c hc) hobserved
    obtain ⟨l', -, hrun⟩ := hruns l hl.sound.shows
    rw [hrun] at hfault
    cases hsettles with
    | ok _ => cases hfault
    | unreadable detail _ =>
      cases hfault
      exact ⟨detail, rfl⟩

attribute [local instance] Json.DepthLimit.usual

/-- A page that is no text, one that is no JSON and one of which a section cannot be read, then a
class without a page and one for the second time. -/
theorem batch_never_aborts_broken_pages :
    let octets := fun s : String => s.toList.map fun ch => UInt8.ofNat ch.toNat
    let docs : Place := Place.working.enter (octets "docs")
    let files : FileTree := ⟨[(docs, .directory),
      (docs.enter (octets "Torn.json"), .file [0xFF]),
      (docs.enter (octets "Open.json"), .file (octets "[")),
      (docs.enter (octets "Box.json"), .file (octets "\x7b\x22methods\x22: 3\x7d"))]⟩
    let put : ObservedMethod := ⟨"put", [⟨⟨"A<,B", []⟩, "end"⟩], ⟨"Any", []⟩, [], false⟩
    let classes : List ObservedClass := [⟨"Torn", [], [], [put, put]⟩, ⟨"Open", [], [], [put]⟩,
      ⟨"Box", [], [], [put]⟩, ⟨"Box$1", [], [], []⟩, ⟨"Torn", [], [], []⟩]
    let session : Session := ⟨.ofNames ["Box"] true, some (.ofRoot (.ofText "docs"))⟩
    (∀ c ∈ classes, c.Accepted) ∧ (∀ s, session.store = some s → s.Opened) ∧
      (∀ c ∈ classes, PagesAccessible files session.store c) ∧
      ∃ r, ((compile files classes).run session).result = .ok r := by
  intro octets docs files put classes session
  have hclasses : ∀ c ∈ classes, c.Accepted := by
    have hrecords : ∀ c ∈ classes,
        ((ObservedClass.check c.toJson).result "ReflectedClass").toOption = some c := by
      decide +kernel
    exact fun c hc => ObservedClass.accepted_of_record (hrecords c hc)
  have hstore : ∀ s, session.store = some s → s.Opened := by
    rintro s hs
    cases hs
    exact PageStore.opened_ofRoot _
  have hpages : ∀ c ∈ classes, PagesAccessible files session.store c := by
    have hchecked : ∀ c ∈ classes, ∀ pagePath ∈ pagePath? c.name,
        ∀ file ∈ (PageStore.pageFile (.ofText "docs") pagePath).toOption,
          (files.locate file).toOption.isSome ∧ ∀ text ∈ (files.readText file).toOption,
            Json.isWithin (Json.readText text) = true := by
      decide +kernel
    rintro c hc s hs pagePath hpath
    cases hs
    refine ⟨fun file path hfile hlocate => ?_, fun file text hfile htext => ?_⟩
    · have hlocated := (hchecked c hc pagePath hpath file (congrArg Except.toOption hfile)).1
      rw [hlocate] at hlocated
      cases hlocated
    · exact (hchecked c hc pagePath hpath file (congrArg Except.toOption hfile)).2 text
        (congrArg Except.toOption htext)
  exact ⟨hclasses, hstore, hpages, (batch_never_aborts hclasses hstore hpages).1⟩

end ApiStubs
