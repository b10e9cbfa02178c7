import ApiStubs.Proofs.Batch.Simulation

/-! Where the classes of a run end, whatever the source of documentation. Every class has one place
in the order of the classes, and the lists of a result are read off the places in this order. -/

namespace ApiStubs.Batch

variable {files : FileTree} {c : ObservedClass} {classes : List ObservedClass} {session : Session}

def recordAs (name : Text) (repeated : Bool) : Outcome → Outcome
  | .merged stub => if repeated then .skipped (repeatedReason name) else .merged stub
  | outcome => outcome

def Outcome.isMerged : Outcome → Bool
  | .merged _ => true
  | _ => false

/-- What is recorded of every class, where `taken` holds the names of those that were merged
before. -/
def recordFrom (taken : List Text) : List (Text × Outcome) → List (Text × Outcome)
  | [] => []
  | (name, outcome) :: rest =>
      let recorded := recordAs name (taken.contains name) outcome
      (name, recorded) :: recordFrom (if recorded.isMerged then name :: taken else taken) rest

def merged? : Text × Outcome → Option ClassStub
  | (_, .merged stub) => some stub
  | _ => none

def excluded? : Text × Outcome → Option Text
  | (name, .excluded) => some name
  | _ => none

def skipped? : Text × Outcome → Option SkippedClass
  | (name, .skipped reason) => some ⟨name, reason⟩
  | _ => none

/-- Each list of the result holds what belongs to it of the places, in their order. -/
structure Gathers (places : List (Text × Outcome)) (r : Compilation) : Prop where
  classes : r.classes = places.filterMap merged?
  excluded : r.excluded = places.filterMap excluded?
  skipped : r.skipped = places.filterMap skipped?
  total : r.total = places.length

def mergedBefore (places : List (Text × Outcome)) (i : Nat) (name : Text) : Bool :=
  (places.take i).any fun place => place.1 == name && place.2.isMerged

section Record

variable {name : Text} {taken : List Text} {rest : List (Text × Outcome)} {stub : ClassStub}

theorem recordFrom_of_taken (h : taken.contains name = true) :
    recordFrom taken ((name, .merged stub) :: rest) =
      (name, .skipped (repeatedReason name)) :: recordFrom taken rest := by
  simp only [recordFrom, recordAs, h, if_true, Outcome.isMerged, Bool.false_eq_true, if_false]

theorem recordFrom_of_not_taken (h : taken.contains name = false) :
    recordFrom taken ((name, .merged stub) :: rest) =
      (name, .merged stub) :: recordFrom (name :: taken) rest := by
  simp only [recordFrom, recordAs, h, if_true, Outcome.isMerged, Bool.false_eq_true, if_false]

theorem gathers_assemble (taken : List Text) (outcomes : List (Text × Outcome)) :
    Gathers (recordFrom taken outcomes) (assemble taken outcomes).1 := by
  induction outcomes generalizing taken with
  | nil => exact ⟨rfl, rfl, rfl, rfl⟩
  | cons o rest ih =>
    have htotal {n : Int} {places : List (Text × Outcome)} (h : n = places.length)
        (place : Text × Outcome) : n + 1 = (place :: places).length := by
      rw [h, List.length_cons, Int.natCast_succ]
    obtain ⟨name, - | reason | stub⟩ := o
    · have hrest := ih taken
      exact ⟨hrest.classes, congrArg (name :: ·) hrest.excluded, hrest.skipped,
        htotal hrest.total _⟩
    · have hrest := ih taken
      exact ⟨hrest.classes, hrest.excluded,
        congrArg (SkippedClass.mk name reason :: ·) hrest.skipped,
        htotal hrest.total _⟩
    · rw [assemble]
      split_ifs with hname
      · have hrest := ih taken
        rw [recordFrom_of_taken hname]
        exact ⟨hrest.classes, hrest.excluded,
          congrArg (SkippedClass.mk name (repeatedReason name) :: ·) hrest.skipped,
          htotal hrest.total _⟩
      · have hrest := ih (name :: taken)
        rw [recordFrom_of_not_taken (Bool.of_not_eq_true hname)]
        exact ⟨congrArg (stub :: ·) hrest.classes, hrest.excluded, hrest.skipped,
          htotal hrest.total _⟩

theorem mergedBefore_cons (place : Text × Outcome) (places : List (Text × Outcome)) (i : Nat)
    (name : Text) :
    mergedBefore (place :: places) (i + 1) name =
      (place.1 == name && place.2.isMerged || mergedBefore places i name) := rfl

theorem recordFrom_names (taken : List Text) (outcomes : List (Text × Outcome)) :
    (recordFrom taken outcomes).map Prod.fst = outcomes.map Prod.fst := by
  induction outcomes generalizing taken with
  | nil => rfl
  | cons o rest ih => rw [recordFrom, List.map_cons, List.map_cons, ih]

theorem getElem?_recordFrom {outcomes : List (Text × Outcome)} {i : Nat} {outcome : Outcome}
    (h : outcomes[i]? = some (name, outcome)) :
    (recordFrom taken outcomes)[i]? = some (name, recordAs name
      (taken.contains name || mergedBefore (recordFrom taken outcomes) i name) outcome) := by
  induction outcomes generalizing taken i with
  | nil => cases h
  | cons o rest ih =>
    obtain ⟨first, before⟩ := o
    rw [recordFrom]
    cases i with
    | zero =>
      cases h
      rw [mergedBefore, List.take_zero, List.any_nil, Bool.or_false]
      rfl
    | succ i =>
      rw [List.getElem?_cons_succ, ih h, mergedBefore_cons]
      cases (recordAs first (taken.contains first) before).isMerged with
      | false => rw [Bool.and_false, Bool.false_or]; rfl
      | true =>
        rw [Bool.and_true, ← Bool.or_assoc, Bool.or_comm _ (first == name), ← BEq.comm]
        rfl

theorem mergedBefore_iff {places : List (Text × Outcome)} {i : Nat} :
    mergedBefore places i name = true ↔
      ∃ j < i, ∃ stub, places[j]? = some (name, .merged stub) := by
  rw [mergedBefore, List.any_eq_true]
  constructor
  · rintro ⟨⟨other, outcome⟩, hmem, h⟩
    obtain ⟨j, hj, hplace⟩ := List.mem_take_iff_getElem.1 hmem
    obtain ⟨hname, hmerged⟩ := Bool.and_eq_true_iff.1 h
    cases outcome with
    | merged stub =>
      refine ⟨j, by omega, stub, ?_⟩
      cases beq_iff_eq.1 hname
      rw [List.getElem?_eq_getElem (by omega), hplace]
    | _ => cases hmerged
  · rintro ⟨j, hj, stub, hplace⟩
    obtain ⟨hlength, hplace⟩ := List.getElem?_eq_some_iff.1 hplace
    exact ⟨_, List.mem_take_iff_getElem.2 ⟨j, by omega, hplace⟩, by simp [Outcome.isMerged]⟩

theorem mergedBefore_eq_false {outcomes : List (Text × Outcome)} {i : Nat}
    (h : (recordFrom taken outcomes)[i]? = some (name, .merged stub)) :
    mergedBefore (recordFrom taken outcomes) i name = false := by
  have hname := congrArg (Option.map Prod.fst) h
  rw [← List.getElem?_map, recordFrom_names, List.getElem?_map] at hname
  obtain ⟨⟨other, outcome⟩, houtcome, rfl⟩ := Option.map_eq_some_iff.1 hname
  rw [getElem?_recordFrom houtcome] at h
  by_contra hbefore
  rw [Bool.of_not_eq_false hbefore, Bool.or_true] at h
  cases outcome <;> cases h

theorem merged?_eq_some_iff {place : Text × Outcome} :
    merged? place = some stub ↔ ∃ name, place = (name, .merged stub) := by
  obtain ⟨name, - | reason | other⟩ := place <;> simp [merged?, eq_comm]

theorem recordAs_eq_merged {name : Text} {repeated : Bool} {outcome : Outcome}
    (h : recordAs name repeated outcome = .merged stub) : outcome = .merged stub := by
  cases outcome with
  | merged made =>
    cases repeated with
    | true => cases h
    | false => exact h
  | _ => cases h

theorem merged_of_mem_recordFrom {taken : List Text} {outcomes : List (Text × Outcome)}
    {name : Text} (h : (name, .merged stub) ∈ recordFrom taken outcomes) :
    (name, .merged stub) ∈ outcomes := by
  induction outcomes generalizing taken with
  | nil => cases h
  | cons o rest ih =>
    obtain ⟨first, outcome⟩ := o
    rcases List.mem_cons.1 h with h | h
    · obtain ⟨rfl, hrecord⟩ := Prod.mk.inj h
      rw [recordAs_eq_merged hrecord.symm]
      exact List.mem_cons_self
    · exact List.mem_cons_of_mem _ (ih h)

theorem nodup_merged {places outcomes : List (Text × Outcome)}
    (hplaces : places = recordFrom taken outcomes)
    (hnames : ∀ name stub, (name, .merged stub) ∈ places → stub.name = name) :
    ((places.filterMap merged?).map ClassStub.name).Nodup := by
  rw [List.Nodup, List.pairwise_map, List.pairwise_filterMap, List.pairwise_iff_getElem]
  intro j i hj hi hlt earlier hearlier later hlater heq
  obtain ⟨first, hfirst⟩ := merged?_eq_some_iff.1 hearlier
  obtain ⟨second, hsecond⟩ := merged?_eq_some_iff.1 hlater
  have hearlier := hnames first earlier (hfirst ▸ List.getElem_mem hj)
  have hlater := hnames second later (hsecond ▸ List.getElem_mem hi)
  obtain rfl : first = second := by rw [← hearlier, heq, hlater]
  have hplace : places[i]? = some (first, .merged later) := by
    rw [List.getElem?_eq_getElem hi, hsecond]
  have hbefore : mergedBefore places i first = true :=
    mergedBefore_iff.2 ⟨j, hlt, earlier, by rw [List.getElem?_eq_getElem hj, hfirst]⟩
  subst hplaces
  rw [mergedBefore_eq_false hplace] at hbefore
  cases hbefore

theorem length_lists (places : List (Text × Outcome)) :
    (places.filterMap merged?).length + (places.filterMap excluded?).length +
      (places.filterMap skipped?).length = places.length := by
  induction places with
  | nil => rfl
  | cons place rest ih =>
    obtain ⟨name, - | reason | stub⟩ := place <;>
      simp only [List.filterMap_cons, merged?, excluded?, skipped?, List.length_cons] <;> omega

theorem Gathers.total_eq {places : List (Text × Outcome)} {r : Compilation} (h : Gathers places r) :
    r.total = r.classes.length + r.excluded.length + r.skipped.length := by
  rw [h.total, h.classes, h.excluded, h.skipped, ← length_lists]
  push_cast
  rfl

end Record

end ApiStubs.Batch

namespace ApiStubs

namespace Source

open Batch

variable {σ κ ε : Type} {source : Source σ κ ε} {c : ObservedClass} {classes : List ObservedClass}
  {before : Exclusions × Option σ} {state : Option σ}

def stateBefore (source : Source σ κ ε) (classes : List ObservedClass)
    (before : Exclusions × Option σ) (i : Nat) : Exclusions × Option σ :=
  ((source.visitAll (classes.take i)).run before).state

theorem stateBefore_cons {outcome : Outcome} (rest : List ObservedClass) (i : Nat)
    (h : ((source.visit c).run before).result = .ok outcome) :
    source.stateBefore (c :: rest) before (i + 1) =
      source.stateBefore rest ((source.visit c).run before).state i := by
  rw [stateBefore, List.take_succ_cons, visitAll, Traced.bind_state_of_ok _ h,
    Traced.bind_pure_run]
  rfl

theorem names_visitAll {outcomes : List (Text × Outcome)}
    (h : ((source.visitAll classes).run before).result = .ok outcomes) :
    outcomes.map Prod.fst = classes.map ObservedClass.name := by
  induction classes generalizing before outcomes with
  | nil =>
    cases h
    rfl
  | cons first rest ih =>
    obtain ⟨outcome, -, hlater⟩ := Traced.exists_of_bind_ok h
    obtain ⟨others, hothers, hreturn⟩ := Traced.exists_of_bind_ok hlater
    cases hreturn
    rw [List.map_cons, List.map_cons, ih hothers]

theorem getElem?_visitAll {outcomes : List (Text × Outcome)} {i : Nat}
    (h : ((source.visitAll classes).run before).result = .ok outcomes)
    (hc : classes[i]? = some c) :
    ∃ outcome, outcomes[i]? = some (c.name, outcome) ∧
      ((source.visit c).run (source.stateBefore classes before i)).result = .ok outcome := by
  induction classes generalizing before outcomes i with
  | nil => cases hc
  | cons first rest ih =>
    obtain ⟨outcome, houtcome, hlater⟩ := Traced.exists_of_bind_ok h
    obtain ⟨others, hothers, hreturn⟩ := Traced.exists_of_bind_ok hlater
    cases hreturn
    cases i with
    | zero =>
      cases hc
      exact ⟨outcome, rfl, houtcome⟩
    | succ i =>
      rw [stateBefore_cons rest i houtcome]
      exact ih hothers hc

/-- The reconciliation with the document stops at a section that cannot be read. -/
def StopsAtDetail (source : Source σ κ ε) (state : Option σ) (c : ObservedClass) : Prop :=
  ∃ pagePath handed document message, pagePath? c.name = some pagePath ∧
    ((source.consult c.name pagePath).run state).result = .ok handed ∧
    ((source.wholeClass c).run handed).result = .error (.detail document message)

theorem name_of_wholeClass {handed : Option κ} {stub : ClassStub}
    (h : ((source.wholeClass c).run handed).result = .ok stub) : stub.name = c.name := by
  obtain ⟨fields, -, hrest⟩ := Traced.exists_of_bind_ok h
  obtain ⟨methods, -, hmade⟩ := Traced.exists_of_bind_ok hrest
  cases hstub : ClassStub.make c.name c.modifiers fields methods with
  | error fault => rw [hstub] at hmade; cases hmade
  | ok made =>
    rw [hstub] at hmade
    cases hmade
    obtain ⟨-, -, rfl⟩ := ClassStub.make_eq_ok_iff.1 hstub
    rfl

def outcomeOf : Except (DocumentFault ε) ClassStub → Except ε Outcome
  | .ok stub => .ok (.merged stub)
  | .error (.detail document message) => .ok (.skipped (skippedReason document message))
  | .error (.raised cause) => .error cause

theorem mergeWith_result (pagePath : Text) (handed : Option κ) :
    ((source.mergeWith c pagePath handed).run state).result =
      outcomeOf ((source.wholeClass c).run handed).result := by
  change ((source.conclude c _ ((source.wholeClass c).run handed).result).run _).result = _
  rcases ((source.wholeClass c).run handed).result with (⟨document, message⟩ | cause) | stub <;> rfl

theorem compileClass_ok {outcome : Outcome}
    (h : ((source.compileClass c).run state).result = .ok outcome) :
    (∃ stub, outcome = .merged stub ∧ stub.name = c.name ∧ pagePath? c.name ≠ none ∧
      ¬source.StopsAtDetail state c) ∨
    ∃ reason, outcome = .skipped reason ∧
      (pagePath? c.name = none ∨ source.StopsAtDetail state c) := by
  rw [compileClass] at h
  cases hpath : pagePath? c.name with
  | none =>
    rw [hpath] at h
    cases h
    exact .inr ⟨_, rfl, .inl rfl⟩
  | some pagePath =>
    rw [hpath] at h
    obtain ⟨handed, hconsult, hmerge⟩ := Traced.exists_of_bind_ok h
    rw [mergeWith_result] at hmerge
    rcases hresult : ((source.wholeClass c).run handed).result with
      (⟨document, message⟩ | cause) | stub
    · rw [hresult] at hmerge
      cases hmerge
      exact .inr ⟨_, rfl, .inr ⟨pagePath, handed, document, message, hpath, hconsult, hresult⟩⟩
    · rw [hresult] at hmerge
      cases hmerge
    · rw [hresult] at hmerge
      cases hmerge
      refine .inl ⟨_, rfl, name_of_wholeClass hresult, Option.some_ne_none pagePath, ?_⟩
      rintro ⟨path, other, document, message, hother, hagain, hfault⟩
      rw [hpath] at hother
      cases hother
      rw [hconsult] at hagain
      cases hagain
      rw [hresult] at hfault
      cases hfault

theorem exclude_run (className : Text) (before : Exclusions × Option σ) :
    (exclude className : Running σ ε Bool).run before =
      ⟨.ok (before.1.check className).1,
        if (before.1.check className).1 then [excludedReport className] else [],
        ((before.1.check className).2, before.2)⟩ := rfl

theorem visit_ok {outcome : Outcome} (h : ((source.visit c).run before).result = .ok outcome) :
    (outcome = .excluded ∧ (before.1.check c.name).1 = true) ∨
      (before.1.check c.name).1 = false ∧
        ((source.compileClass c).run before.2).result = .ok outcome := by
  have hexclude := @exclude_run σ ε c.name before
  rw [visit, Traced.bind_run_ok _ hexclude] at h
  cases hcheck : (before.1.check c.name).1 with
  | true =>
    rw [hcheck] at h
    cases h
    exact .inl ⟨rfl, rfl⟩
  | false =>
    rw [hcheck] at h
    exact .inr ⟨rfl, h⟩

/-- When a place holds what, given what the class meets when its turn comes. -/
structure PlacedBy (source : Source σ κ ε) (before : Exclusions × Option σ) (c : ObservedClass)
    (repeated : Prop) (outcome : Outcome) : Prop where
  excluded : outcome = .excluded ↔ (before.1.check c.name).1 = true
  name : ∀ stub, outcome = .merged stub → stub.name = c.name
  skipped : outcome ≠ .excluded → ((∃ reason, outcome = .skipped reason) ↔
    pagePath? c.name = none ∨ source.StopsAtDetail before.2 c ∨ repeated)

theorem placedBy_of_visit {repeated : Bool} {outcome : Outcome}
    (h : ((source.visit c).run before).result = .ok outcome) :
    source.PlacedBy before c (repeated = true) (recordAs c.name repeated outcome) := by
  rcases visit_ok h with ⟨rfl, hcheck⟩ | ⟨hcheck, hcompile⟩
  · exact ⟨by simp [recordAs, hcheck], nofun, fun hne => absurd rfl hne⟩
  · rcases compileClass_ok hcompile with ⟨stub, rfl, hname, hpath, hstops⟩ | ⟨reason, rfl, hwhy⟩
    · cases repeated with
      | true => exact ⟨by simp [recordAs, hcheck], nofun, fun _ => by simp [recordAs]⟩
      | false =>
        refine ⟨by simp [recordAs, hcheck], ?_, fun _ => by simp [recordAs, hpath, hstops]⟩
        rintro _ ⟨⟩
        exact hname
    · refine ⟨by simp [recordAs, hcheck], nofun, fun _ => ⟨fun _ => ?_, fun _ => ⟨reason, rfl⟩⟩⟩
      rw [← or_assoc]
      exact .inl hwhy

theorem exists_placedBy {outcomes : List (Text × Outcome)} {i : Nat}
    (h : ((source.visitAll classes).run before).result = .ok outcomes)
    (hc : classes[i]? = some c) :
    ∃ outcome, (recordFrom [] outcomes)[i]? = some (c.name, outcome) ∧
      source.PlacedBy (source.stateBefore classes before i) c
        (∃ j < i, ∃ stub, (recordFrom [] outcomes)[j]? = some (c.name, .merged stub)) outcome := by
  obtain ⟨outcome, houtcome, hvisit⟩ := getElem?_visitAll h hc
  refine ⟨_, getElem?_recordFrom houtcome, ?_⟩
  rw [← mergedBefore_iff]
  exact placedBy_of_visit hvisit

theorem nodup_names {outcomes : List (Text × Outcome)}
    (h : ((source.visitAll classes).run before).result = .ok outcomes) :
    (((recordFrom [] outcomes).filterMap merged?).map ClassStub.name).Nodup := by
  refine nodup_merged rfl fun name stub hmem => ?_
  obtain ⟨i, hi, hplace⟩ := List.getElem_of_mem hmem
  have hlength := congrArg List.length ((recordFrom_names [] outcomes).trans (names_visitAll h))
  rw [List.length_map, List.length_map] at hlength
  obtain ⟨outcome, houtcome, hby⟩ := exists_placedBy h (List.getElem?_eq_getElem (hlength ▸ hi))
  rw [List.getElem?_eq_getElem hi, hplace] at houtcome
  cases houtcome
  exact hby.name stub rfl

theorem compile_eq_ok {r : Compilation} (h : ((source.compile classes).run before).result = .ok r) :
    ∃ outcomes, ((source.visitAll classes).run before).result = .ok outcomes ∧
      Gathers (recordFrom [] outcomes) r := by
  obtain ⟨outcomes, houtcomes, hfinish⟩ := Traced.exists_of_bind_ok h
  obtain ⟨hclasses, hexcluded, hskipped, htotal⟩ := gathers_assemble [] outcomes
  cases hfinish
  exact ⟨outcomes, houtcomes, ⟨hclasses, hexcluded, hskipped, htotal⟩⟩

theorem total_eq_length {r : Compilation}
    (h : ((source.compile classes).run before).result = .ok r) : r.total = classes.length := by
  obtain ⟨outcomes, houtcomes, hgathers⟩ := compile_eq_ok h
  have hlength := congrArg List.length (names_visitAll houtcomes)
  rw [List.length_map, List.length_map] at hlength
  rw [hgathers.total, ← hlength, ← List.length_map Prod.fst, recordFrom_names, List.length_map]

end Source
end ApiStubs

namespace ApiStubs.Batch

variable {files : FileTree} {c : ObservedClass} {classes : List ObservedClass} {session : Session}

variable [Json.DepthLimit]

def ledger (files : FileTree) (classes : List ObservedClass) : Running (List (Text × Outcome)) :=
  recordFrom [] <$> visitAll files classes

theorem compile_eq_ok {r : Compilation} (h : ((compile files classes).run session).result = .ok r) :
    ∃ places, ((ledger files classes).run session).result = .ok places ∧ Gathers places r := by
  have hsource := ((PageStore.runsAs_compile classes).result_eq session).trans h
  obtain ⟨outcomes, houtcomes, hgathers⟩ := Source.compile_eq_ok hsource
  rw [(PageStore.runsAs_visitAll classes).result_eq] at houtcomes
  refine ⟨recordFrom [] outcomes, ?_, hgathers⟩
  rw [ledger, Traced.map_run, houtcomes]
  rfl

theorem pagesAccessible_of_read {root : Path}
    (h : ∀ c ∈ classes, ∀ pagePath ∈ pagePath? c.name,
      ∀ file ∈ (PageStore.pageFile root pagePath).toOption,
        (files.locate file).toOption.isSome ∧ ∀ text ∈ (files.readText file).toOption,
          Json.isWithin (Json.readText text) = true) :
    ∀ c ∈ classes, PagesAccessible files (some (.ofRoot root)) c := by
  rintro c hc s hs pagePath hpath
  cases hs
  have hread := h c hc pagePath hpath
  refine ⟨fun file path hfile hlocate => ?_, fun file text hfile htext => ?_⟩
  · have hlocated := (hread file (congrArg Except.toOption hfile)).1
    rw [hlocate] at hlocated
    cases hlocated
  · exact (hread file (congrArg Except.toOption hfile)).2 text (congrArg Except.toOption htext)

theorem ledger_eq_ok {places : List (Text × Outcome)}
    (h : ((ledger files classes).run session).result = .ok places) :
    ∃ outcomes, ((visitAll files classes).run session).result = .ok outcomes ∧
      places = recordFrom [] outcomes := by
  rw [ledger, Traced.map_run] at h
  cases houtcomes : ((visitAll files classes).run session).result with
  | error abort => rw [houtcomes] at h; cases h
  | ok outcomes =>
    rw [houtcomes] at h
    cases h
    exact ⟨outcomes, rfl, rfl⟩

theorem names_ledger {places : List (Text × Outcome)}
    (h : ((ledger files classes).run session).result = .ok places) :
    places.map Prod.fst = classes.map ObservedClass.name := by
  obtain ⟨outcomes, houtcomes, rfl⟩ := ledger_eq_ok h
  rw [← (PageStore.runsAs_visitAll classes).result_eq] at houtcomes
  rw [recordFrom_names, Source.names_visitAll houtcomes]

theorem total_eq_length {r : Compilation}
    (h : ((compile files classes).run session).result = .ok r) : r.total = classes.length :=
  Source.total_eq_length (((PageStore.runsAs_compile classes).result_eq session).trans h)

end ApiStubs.Batch

namespace ApiStubs

open Batch

/-- Whatever the source of documentation, every class has one place, and every place has one entry
in one list of the result. The entries keep the order of the classes, no two merged classes have one
name, and a class that is not excluded is skipped just if it has no page path, if its reconciliation
stops at a section of its document, or if a class of its name was merged before. The store of pages
is such a source, and over it accepted classes always come to a result. -/
theorem places_partition_classes [Json.DepthLimit] (classes : List ObservedClass) :
    (∀ {σ κ ε : Type} (source : Source σ κ ε) (before : Exclusions × Option σ) (r : Compilation),
      ((source.compile classes).run before).result = .ok r →
      ∃ places, places.map Prod.fst = classes.map ObservedClass.name ∧ Gathers places r ∧
        r.total = classes.length ∧
        r.total = r.classes.length + r.excluded.length + r.skipped.length ∧
        (r.classes.map ClassStub.name).Nodup ∧
        ∀ i c, classes[i]? = some c → ∃ outcome, places[i]? = some (c.name, outcome) ∧
          source.PlacedBy (source.stateBefore classes before i) c
            (∃ j < i, ∃ stub, places[j]? = some (c.name, .merged stub)) outcome) ∧
    ∀ (files : FileTree) (session : Session),
      (((PageStore.source files).compile classes).run (session.exclusions, session.store)).result =
        ((compile files classes).run session).result ∧
      ((∀ c ∈ classes, c.Accepted) → (∀ s, session.store = some s → s.Opened) →
        (∀ c ∈ classes, PagesAccessible files session.store c) →
        ∃ r, ((compile files classes).run session).result = .ok r) := by
  constructor
  · intro σ κ ε source before r hr
    obtain ⟨outcomes, houtcomes, hgathers⟩ := Source.compile_eq_ok hr
    have hnames := (recordFrom_names [] outcomes).trans (Source.names_visitAll houtcomes)
    refine ⟨recordFrom [] outcomes, hnames, hgathers, Source.total_eq_length hr,
      hgathers.total_eq, ?_, fun i c hc => Source.exists_placedBy houtcomes hc⟩
    rw [hgathers.classes]
    exact Source.nodup_names houtcomes
  · intro files session
    refine ⟨(PageStore.runsAs_compile classes).result_eq session, fun hclasses hstore haccess => ?_⟩
    exact compile_ok (fun c hc => (hclasses c hc).readable) haccess (storesAs_refl hstore)

attribute [local instance] Json.DepthLimit.usual

/-- An exclusion that is used up by the first class of three of one name, a section that cannot be
read, and a class without a page; and the same classes with a source whose first document alone
cannot be read. -/
theorem places_partition_classes_repeated :
    let octets := fun s : String => s.toList.map fun ch => UInt8.ofNat ch.toNat
    let docs : Place := Place.working.enter (octets "docs")
    let files : FileTree := ⟨[(docs, .directory),
      (docs.enter (octets "Bad.json"), .file (octets "\x7b\x22methods\x22: 3\x7d"))]⟩
    let put : ObservedMethod := ⟨"put", [], ⟨"void", []⟩, [], false⟩
    let classes : List ObservedClass := [⟨"Box", [], [], []⟩, ⟨"Bad", [], [], [put]⟩,
      ⟨"Box", [], [], []⟩, ⟨"Box$1", [], [], []⟩, ⟨"Box", [], [], [put]⟩, ⟨"Bad", [], [], []⟩]
    let session : Session := ⟨.ofNames ["Box"] true, some (.ofRoot (.ofText "docs"))⟩
    let source : Source Nat Nat Fault := {
      page := fun _ count => (.ok count, count + 1)
      putBack := fun _ _ count => count
      documentName? := fun _ => some "Pages"
      field? := fun _ count => (.ok none, count)
      methodsNamed := fun _ count =>
        (if count = 0 then .error (.detail "Pages" "no table") else .ok [], count)
      fault := fun fault => fault }
    (∀ c ∈ classes, c.Accepted) ∧ (∀ s, session.store = some s → s.Opened) ∧
      (∀ c ∈ classes, PagesAccessible files session.store c) ∧
      (∃ r, ((compile files classes).run session).result = .ok r ∧
        r.excluded = ["Box"] ∧ r.classes.map ClassStub.name = ["Box", "Bad"] ∧
        r.skipped.map SkippedClass.name = ["Bad", "Box$1", "Box"] ∧ r.total = classes.length ∧
        (r.classes.map ClassStub.name).Nodup) ∧
      ∃ r, ((source.compile classes).run (session.exclusions, some 0)).result = .ok r ∧
        r.classes.map ClassStub.name = ["Box", "Bad"] ∧ r.total = classes.length ∧
        (r.classes.map ClassStub.name).Nodup := by
  intro octets docs files put classes session source
  have hclasses : ∀ c ∈ classes, c.Accepted := by
    have hrecords : ∀ c ∈ classes,
        ((ObservedClass.check c.toJson).result "ReflectedClass").toOption = some c := by
      decide +kernel
    exact fun c hc => ObservedClass.accepted_of_record (hrecords c hc)
  have hstore : ∀ s, session.store = some s → s.Opened := by
    rintro s hs
    cases hs
    exact PageStore.opened_ofRoot _
  have hpages : ∀ c ∈ classes, PagesAccessible files session.store c :=
    pagesAccessible_of_read (by decide +kernel)
  obtain ⟨hpartition, hfiles⟩ := places_partition_classes classes
  refine ⟨hclasses, hstore, hpages, ?_, ?_⟩
  · obtain ⟨hsame, hexists⟩ := hfiles files session
    obtain ⟨r, hr⟩ := hexists hclasses hstore hpages
    have hlists : ∀ r ∈ ((compile files classes).run session).result.toOption,
        r.excluded = ["Box"] ∧ r.classes.map ClassStub.name = ["Box", "Bad"] ∧
          r.skipped.map SkippedClass.name = ["Bad", "Box$1", "Box"] := by
      decide +kernel
    obtain ⟨hexcluded, hmerged, hskipped⟩ := hlists r (congrArg Except.toOption hr)
    obtain ⟨places, -, -, htotal, -, hnodup, -⟩ := hpartition _ _ r (hsame.trans hr)
    exact ⟨r, hr, hexcluded, hmerged, hskipped, htotal, hnodup⟩
  · have hr : ((source.compile classes).run (session.exclusions, some 0)).result.toOption.map
        (fun r => r.classes.map ClassStub.name) = some (["Box", "Bad"] : List Text) := by
      decide +kernel
    obtain ⟨r, hr, hmerged⟩ := Option.map_eq_some_iff.1 hr
    obtain ⟨places, -, -, htotal, -, hnodup, -⟩ := hpartition _ _ r (eq_ok_of_toOption hr)
    exact ⟨r, eq_ok_of_toOption hr, hmerged, htotal, hnodup⟩

end ApiStubs
