import ApiStubs.Proofs.Batch.Places
import ApiStubs.Proofs.Batch.Shared

/-! Classes of a run are isolated from each other. Although they share one store of pages, what is
recorded of a class is what a run over this class alone records, unless a class of its name was
merged before. -/

namespace ApiStubs.Batch

variable {files files' : FileTree} {c : ObservedClass} {classes : List ObservedClass}
  {session : Session} {store₀ : Option PageStore}

theorem recordAs_eq (name : Text) (repeated : Bool) (outcome : Outcome) :
    recordAs name repeated outcome =
      if outcome.isMerged && repeated then .skipped (repeatedReason name) else outcome := by
  cases outcome <;> rfl

theorem mergedBefore_eq_false_of_names {places : List (Text × Outcome)} {i : Nat}
    (hnames : places.map Prod.fst = classes.map ObservedClass.name)
    (h : ∀ d ∈ classes.take i, d.name ≠ c.name) : mergedBefore places i c.name = false := by
  rw [mergedBefore, List.any_eq_false]
  intro place hplace hmerged
  have hname : place.1 ∈ (places.map Prod.fst).take i := by
    rw [← List.map_take]
    exact List.mem_map_of_mem hplace
  rw [hnames, ← List.map_take] at hname
  obtain ⟨d, hd, heq⟩ := List.mem_map.1 hname
  exact h d hd (heq.trans (beq_iff_eq.1 (Bool.and_eq_true_iff.1 hmerged).1))

variable [Json.DepthLimit]

theorem exists_compile_iff :
    (∃ r, ((compile files classes).run session).result = .ok r) ↔
      ∃ outcomes, ((visitAll files classes).run session).result = .ok outcomes := by
  constructor
  · rintro ⟨r, hr⟩
    obtain ⟨outcomes, houtcomes, -⟩ := Traced.exists_of_bind_ok hr
    exact ⟨outcomes, houtcomes⟩
  · rintro ⟨outcomes, houtcomes⟩
    rcases hrun : (visitAll files classes).run session with ⟨result, reports, session'⟩
    rw [hrun] at houtcomes
    cases houtcomes
    rw [compile, Traced.bind_run_ok _ hrun]
    exact ⟨_, rfl⟩

section Pure

variable (hclasses : ∀ c ∈ classes, c.Accepted) (hpure : session.exclusions.isPure = true)
  (hstore : ∀ s, session.store = some s → s.Opened)
include hclasses hpure hstore

/-- Each class comes to its own verdict, which the first state of the session decides. -/
theorem visitAll_eq_ok_iff {outcomes : List (Text × Outcome)} :
    ((visitAll files classes).run session).result = .ok outcomes ↔
      List.Forall₂ (fun c o => c.name = o.1 ∧
        (visitVerdict files session.store (session.exclusions.lists c.name) c).1 = .ok o.2)
        classes outcomes := by
  have hstores : StoresAs files session.store session.store := storesAs_refl hstore
  obtain ⟨session', -, hrun⟩ := visitAll_run (fun c hc => (hclasses c hc).readable) hstores
  rw [hrun, turns_of_isPure hpure, inTurn_eq_ok_iff, List.forall₂_map_left_iff]

theorem exists_visitAll_iff :
    (∃ outcomes, ((visitAll files classes).run session).result = .ok outcomes) ↔
      ∀ c ∈ classes, ∃ outcome,
        (visitVerdict files session.store (session.exclusions.lists c.name) c).1 = .ok outcome := by
  simp only [visitAll_eq_ok_iff hclasses hpure hstore]
  constructor
  · rintro ⟨outcomes, houtcomes⟩ c hc
    obtain ⟨o, -, -, houtcome⟩ := exists_of_mem_forall₂ houtcomes.flip hc
    exact ⟨o.2, houtcome⟩
  · intro h
    refine exists_forall₂ fun c hc => ?_
    obtain ⟨outcome, houtcome⟩ := h c hc
    exact ⟨(c.name, outcome), rfl, houtcome⟩

theorem getElem?_ledger_of_isPure {places : List (Text × Outcome)} {i : Nat}
    (h : ((ledger files classes).run session).result = .ok places) (hc : classes[i]? = some c) :
    ∃ outcome,
      (visitVerdict files session.store (session.exclusions.lists c.name) c).1 = .ok outcome ∧
      places[i]? = some (c.name, recordAs c.name (mergedBefore places i c.name) outcome) := by
  obtain ⟨outcomes, houtcomes, rfl⟩ := ledger_eq_ok h
  rw [visitAll_eq_ok_iff hclasses hpure hstore] at houtcomes
  obtain ⟨⟨name, outcome⟩, hplace, hname, houtcome⟩ := exists_getElem?_of_forall₂ houtcomes hc
  cases hname
  exact ⟨outcome, houtcome, getElem?_recordFrom hplace⟩

end Pure

theorem compile_alone {outcome : Outcome} (hc : c.Accepted)
    (hpure : session.exclusions.isPure = true) (hstore : ∀ s, session.store = some s → s.Opened)
    (h : (visitVerdict files session.store (session.exclusions.lists c.name) c).1 = .ok outcome) :
    ∃ alone, ((compile files [c]).run session).result = .ok alone ∧
      Gathers [(c.name, outcome)] alone := by
  have hclasses : ∀ d ∈ [c], d.Accepted := by simpa using hc
  have hvisit : ((visitAll files [c]).run session).result = .ok [(c.name, outcome)] :=
    (visitAll_eq_ok_iff hclasses hpure hstore).2 (.cons ⟨rfl, h⟩ .nil)
  obtain ⟨alone, halone⟩ := exists_compile_iff.2 ⟨_, hvisit⟩
  obtain ⟨places, hplaces, hgathers⟩ := compile_eq_ok halone
  obtain ⟨outcomes, houtcomes, rfl⟩ := ledger_eq_ok hplaces
  rw [hvisit] at houtcomes
  cases houtcomes
  -- nothing of its name was merged before a class that comes first
  have hrecord : recordFrom [] [(c.name, outcome)] = [(c.name, outcome)] := by
    rw [recordFrom, recordAs_eq]
    simp [recordFrom]
  exact ⟨alone, halone, hrecord ▸ hgathers⟩

/-- The page of the class is loaded from either tree of files alike. -/
def SamePage (files files' : FileTree) (store : Option PageStore) (c : ObservedClass) : Prop :=
  ∀ s, store = some s → ∀ pagePath, pagePath? c.name = some pagePath →
    PageStore.load files s.root pagePath = PageStore.load files' s.root pagePath

theorem SamePage.visitVerdict_eq (h : SamePage files files' store₀ c) (excluded : Bool) :
    visitVerdict files store₀ excluded c = visitVerdict files' store₀ excluded c := by
  have hclass : classVerdict files store₀ c = classVerdict files' store₀ c := by
    rw [classVerdict, classVerdict]
    cases hpath : pagePath? c.name with
    | none => rfl
    | some pagePath =>
      cases store₀ with
      | none => rfl
      | some s =>
        have hanswer : s.answer files pagePath = s.answer files' pagePath := by
          rw [PageStore.answer, PageStore.answer, h s rfl pagePath hpath]
        dsimp only [pageVerdict]
        rw [hanswer]
  rw [visitVerdict, visitVerdict, hclass]

end ApiStubs.Batch

namespace ApiStubs

open Batch

/-- A run over accepted classes comes to a result just if every class does alone, and it records of
each class what a run over this class alone records, but for a merged class of whose name one was
merged before. So a class in two runs is recorded alike, whatever the other classes, their order and
their pages are, if in both or in neither a class of its name was merged before; and none was where
no class before has its name. -/
theorem classes_are_isolated [Json.DepthLimit] {files : FileTree}
    {classes : List ObservedClass} {session : Session}
    (hclasses : ∀ c ∈ classes, c.Accepted) (hpure : session.exclusions.isPure = true)
    (hstore : ∀ s, session.store = some s → s.Opened) :
    ((∃ r, ((compile files classes).run session).result = .ok r) ↔
      ∀ c ∈ classes, ∃ alone, ((compile files [c]).run session).result = .ok alone) ∧
    ∀ r, ((compile files classes).run session).result = .ok r →
      ∃ places, ((ledger files classes).run session).result = .ok places ∧ Gathers places r ∧
        (∀ i c, classes[i]? = some c → ∃ alone outcome,
          ((compile files [c]).run session).result = .ok alone ∧
          Gathers [(c.name, outcome)] alone ∧
          places[i]? = some (c.name, if outcome.isMerged && mergedBefore places i c.name
            then .skipped (repeatedReason c.name) else outcome)) ∧
        ∀ files' classes' places', (∀ c ∈ classes', c.Accepted) →
          ((ledger files' classes').run session).result = .ok places' →
          ∀ i i' c, classes[i]? = some c → classes'[i']? = some c →
            SamePage files files' session.store c →
            (mergedBefore places i c.name = mergedBefore places' i' c.name ∨
              (∀ d ∈ classes.take i, d.name ≠ c.name) ∧
                ∀ d ∈ classes'.take i', d.name ≠ c.name) →
            places[i]? = places'[i']? := by
  refine ⟨?_, fun r hr => ?_⟩
  · rw [exists_compile_iff, exists_visitAll_iff hclasses hpure hstore]
    refine forall₂_congr fun c hc => ?_
    have hc : ∀ d ∈ [c], d.Accepted := by simpa using hclasses c hc
    rw [exists_compile_iff, exists_visitAll_iff hc hpure hstore]
    simp
  · obtain ⟨places, hplaces, hgathers⟩ := compile_eq_ok hr
    refine ⟨places, hplaces, hgathers, fun i c hc => ?_, ?_⟩
    · obtain ⟨outcome, houtcome, hplace⟩ :=
        getElem?_ledger_of_isPure hclasses hpure hstore hplaces hc
      obtain ⟨alone, halone, halones⟩ :=
        compile_alone (hclasses c (List.mem_of_getElem? hc)) hpure hstore houtcome
      exact ⟨alone, outcome, halone, halones, by rw [hplace, recordAs_eq]⟩
    · intro files' classes' places' hclasses' hplaces' i i' c hc hc' hpage hbefore
      obtain ⟨outcome, houtcome, hplace⟩ :=
        getElem?_ledger_of_isPure hclasses hpure hstore hplaces hc
      obtain ⟨outcome', houtcome', hplace'⟩ :=
        getElem?_ledger_of_isPure hclasses' hpure hstore hplaces' hc'
      rw [hpage.visitVerdict_eq, houtcome'] at houtcome
      cases houtcome
      have hsame : mergedBefore places i c.name = mergedBefore places' i' c.name := by
        rcases hbefore with hsame | ⟨hnone, hnone'⟩
        · exact hsame
        · rw [mergedBefore_eq_false_of_names (names_ledger hplaces) hnone,
            mergedBefore_eq_false_of_names (names_ledger hplaces') hnone']
      rw [hplace, hplace', hsame]

attribute [local instance] Json.DepthLimit.usual

/-- A class whose page has a parameter without a type, an excluded one, and two of one name that
share a page; in another run the broken page is gone, with its class. -/
theorem classes_are_isolated_broken_page :
    let octets := fun s : String => s.toList.map fun ch => UInt8.ofNat ch.toNat
    let docs : Place := Place.working.enter (octets "docs")
    let box := (docs.enter (octets "Box.json"),
      Node.file (octets "\x7b\x22methods\x22: []\x7d"))
    let bad := (docs.enter (octets "Bad.json"), Node.file
      (octets "\x7b\x22methods\x22: [\x7b\x22parameters\x22: [\x7b\x7d]\x7d]\x7d"))
    let files : FileTree := ⟨[(docs, .directory), box, bad]⟩
    let files' : FileTree := ⟨[(docs, .directory), box]⟩
    let put : ObservedMethod := ⟨"put", [⟨⟨"int", []⟩, "end"⟩], ⟨"Any", []⟩, [], false⟩
    let c : ObservedClass := ⟨"Map", [], [], [put]⟩
    let twice : ObservedClass := ⟨"Box", [], [], [put, put]⟩
    let classes : List ObservedClass := [⟨"Bad", [], [], [put]⟩, ⟨"Out", [], [], []⟩,
      ⟨"Box", [], [], [put]⟩, twice, c]
    let classes' : List ObservedClass := [c, twice, ⟨"Box", [], [], [put]⟩]
    let session : Session := ⟨.ofNames ["Out"] false, some (.ofRoot (.ofText "docs"))⟩
    (∀ c ∈ classes, c.Accepted) ∧ session.exclusions.isPure = true ∧
      (∀ s, session.store = some s → s.Opened) ∧ (∀ c ∈ classes', c.Accepted) ∧
      SamePage files files' session.store c ∧
      ∃ r places places', ((compile files classes).run session).result = .ok r ∧
        Gathers places r ∧ ((ledger files' classes').run session).result = .ok places' ∧
        places[4]? = places'[0]? ∧ places[3]? = some (twice.name, .skipped (repeatedReason "Box")) ∧
        ∃ alone, ((compile files [twice]).run session).result = .ok alone ∧
          alone.classes.map ClassStub.name = ["Box"] := by
  intro octets docs box bad files files' put c twice classes classes' session
  have haccepted : ∀ d ∈ classes ++ classes', d.Accepted := by
    have hrecords : ∀ d ∈ classes ++ classes',
        ((ObservedClass.check d.toJson).result "ReflectedClass").toOption = some d := by
      decide +kernel
    exact fun d hd => ObservedClass.accepted_of_record (hrecords d hd)
  have hclasses : ∀ d ∈ classes, d.Accepted := fun d hd =>
    haccepted d (List.mem_append_left _ hd)
  have hclasses' : ∀ d ∈ classes', d.Accepted := fun d hd =>
    haccepted d (List.mem_append_right _ hd)
  have hpure : session.exclusions.isPure = true := rfl
  have hstore : ∀ s, session.store = some s → s.Opened := by
    rintro s hs
    cases hs
    exact PageStore.opened_ofRoot _
  have hpage : SamePage files files' session.store c := by
    rintro s hs pagePath hpath
    cases hs
    have hmap : pagePath? c.name = some "Map.html" := by decide +kernel
    rw [hmap] at hpath
    cases hpath
    rfl
  have hr : ((compile files classes).run session).result.toOption.isSome = true := by
    decide +kernel
  obtain ⟨r, hr⟩ := Option.isSome_iff_exists.1 hr
  have hplaces' : ((ledger files' classes').run session).result.toOption.isSome = true := by
    decide +kernel
  obtain ⟨places', hplaces'⟩ := Option.isSome_iff_exists.1 hplaces'
  obtain ⟨-, hrun⟩ := @classes_are_isolated _ files classes session hclasses hpure hstore
  obtain ⟨places, hplaces, hgathers, halone, hother⟩ := hrun r (eq_ok_of_toOption hr)
  obtain ⟨alone, outcome, hcompile, hone, hplace⟩ := halone 3 twice rfl
  have hmerged : ∀ alone ∈ ((compile files [twice]).run session).result.toOption,
      alone.classes.map ClassStub.name = ["Box"] := by
    decide +kernel
  have hnames := hmerged alone (congrArg Except.toOption hcompile)
  have hbefore : ∀ places ∈ ((ledger files classes).run session).result.toOption,
      mergedBefore places 3 twice.name = true := by
    decide +kernel
  have hoccupied := hbefore places (congrArg Except.toOption hplaces)
  rw [hoccupied, Bool.and_true] at hplace
  refine ⟨hclasses, hpure, hstore, hclasses', hpage, r, places, places', eq_ok_of_toOption hr,
    hgathers, eq_ok_of_toOption hplaces', ?_, ?_, alone, hcompile, hnames⟩
  · exact hother files' classes' places' hclasses' (eq_ok_of_toOption hplaces') 4 0 c rfl rfl hpage
      (.inr ⟨by decide +kernel, nofun⟩)
  · rw [hone.classes] at hnames
    cases outcome with
    | merged stub => exact hplace
    | _ => cases hnames

end ApiStubs
