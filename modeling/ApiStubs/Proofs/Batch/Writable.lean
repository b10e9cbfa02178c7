import ApiStubs.Proofs.Batch.Excluded
import ApiStubs.Proofs.Batch.Isolation
import ApiStubs.Proofs.TypeExpr.Written
import ApiStubs.Proofs.Validation.Lossless

/-! Results that can be written. Where each class alone comes to such a result, so do all of them
together, whatever names of whole texts are excluded. -/

namespace ApiStubs

theorem ObservedClass.Accepted.not_isTorn_name {c : ObservedClass} (h : c.Accepted) :
    c.name.isTorn = false := by
  obtain ⟨value, hvalue⟩ := h
  obtain ⟨members, hmembers⟩ := Json.checkModel_eq_ok hvalue
  obtain ⟨g₁, methods, hg₁, -, rfl⟩ := Checked.seq_eq_ok_iff.1 hmembers
  obtain ⟨g₂, fields, hg₂, -, rfl⟩ := Checked.seq_eq_ok_iff.1 hg₁
  obtain ⟨g₃, modifiers, hg₃, -, rfl⟩ := Checked.seq_eq_ok_iff.1 hg₂
  obtain ⟨name, hname, rfl⟩ := Checked.map_eq_ok_iff.1 hg₃
  obtain ⟨record, hrecord⟩ := Json.checkMember_eq_ok hname
  exact (Json.checkNonEmptyString_eq_ok_iff.1 hrecord).2.1

namespace Batch

variable {files : FileTree} {store : Option PageStore} {c : ObservedClass}
  {classes : List ObservedClass} {r : Compilation} {places : List (Text × Outcome)}
  {session : Session} {names : List Text} {consuming : Bool}

def placeParts : Text × Outcome → List RecordPart
  | (name, .excluded) => [.text name]
  | (name, .skipped reason) => [.text name, .text reason]
  | (_, .merged stub) => stub.parts

def Fits (place : Text × Outcome) : Prop := ∀ part ∈ placeParts place, part.fault? = none

theorem mem_placeParts_iff {place : Text × Outcome} {part : RecordPart} :
    part ∈ placeParts place ↔
      (∃ stub, merged? place = some stub ∧ part ∈ stub.parts) ∨
      (∃ name, excluded? place = some name ∧ part = .text name) ∨
      ∃ s, skipped? place = some s ∧ part ∈ s.parts := by
  obtain ⟨name, - | reason | stub⟩ := place <;>
    simp [placeParts, merged?, excluded?, skipped?, SkippedClass.parts]

theorem mem_parts_iff (h : Gathers places r) {part : RecordPart} :
    part ∈ r.parts ↔ (∃ place ∈ places, part ∈ placeParts place) ∨
      ∃ name ∈ r.unusedExclusions, part = .text name := by
  obtain ⟨hclasses, hexcluded, hskipped, -⟩ := h
  simp only [Compilation.parts, RecordPart.texts, List.mem_append, List.mem_flatMap, List.mem_map,
    hclasses, hexcluded, hskipped, List.mem_filterMap, mem_placeParts_iff]
  constructor
  · rintro (((⟨stub, ⟨place, hplace, hstub⟩, hpart⟩ | ⟨name, ⟨place, hplace, hname⟩, rfl⟩) |
      ⟨s, ⟨place, hplace, hs⟩, hpart⟩) | ⟨name, hname, rfl⟩)
    · exact .inl ⟨place, hplace, .inl ⟨stub, hstub, hpart⟩⟩
    · exact .inl ⟨place, hplace, .inr (.inl ⟨name, hname, rfl⟩)⟩
    · exact .inl ⟨place, hplace, .inr (.inr ⟨s, hs, hpart⟩)⟩
    · exact .inr ⟨name, hname, rfl⟩
  · rintro (⟨place, hplace, ⟨stub, hstub, hpart⟩ | ⟨name, hname, rfl⟩ | ⟨s, hs, hpart⟩⟩ |
      ⟨name, hname, rfl⟩)
    · exact .inl (.inl (.inl ⟨stub, ⟨place, hplace, hstub⟩, hpart⟩))
    · exact .inl (.inl (.inr ⟨name, ⟨place, hplace, hname⟩, rfl⟩))
    · exact .inl (.inr ⟨s, ⟨place, hplace, hs⟩, hpart⟩)
    · exact .inr ⟨name, hname, rfl⟩

theorem exists_textRecord_iff (h : Gathers places r) :
    (∃ value, r.textRecord = .ok value) ↔
      (∀ place ∈ places, Fits place) ∧ ∀ name ∈ r.unusedExclusions, name.isTorn = false := by
  simp only [Compilation.textRecord, textRecordOf_eq_ok_iff_forall, exists_and_left, exists_eq,
    and_true, mem_parts_iff h]
  constructor
  · intro hparts
    exact ⟨fun place hplace part hpart => hparts part (.inl ⟨place, hplace, hpart⟩),
      fun name hname => RecordPart.fault?_text_eq_none_iff.1 (hparts _ (.inr ⟨name, hname, rfl⟩))⟩
  · rintro ⟨hplaces, hnames⟩ part (⟨place, hplace, hpart⟩ | ⟨name, hname, rfl⟩)
    · exact hplaces place hplace part hpart
    · exact RecordPart.fault?_text_eq_none_iff.2 (hnames name hname)

/-- What a class comes to in a result fits into it if it fits when the class stands alone. -/
theorem fits_of_mem_recordFrom {taken : List Text} {outcomes : List (Text × Outcome)}
    (h : ∀ place ∈ outcomes, place.1.isTorn = false ∧ Fits place) :
    ∀ place ∈ recordFrom taken outcomes, Fits place := by
  induction outcomes generalizing taken with
  | nil => exact List.forall_mem_nil _
  | cons o rest ih =>
    obtain ⟨name, outcome⟩ := o
    obtain ⟨⟨hname, hfits⟩, hrest⟩ := List.forall_mem_cons.1 h
    refine List.forall_mem_cons.2 ⟨?_, ih hrest⟩
    rw [recordAs_eq]
    split_ifs
    · have hreason : (repeatedReason name).isTorn = false :=
        List.any_append.trans (Bool.or_eq_false_iff.2 ⟨by decide, hname⟩)
      exact List.forall_mem_cons.2 ⟨RecordPart.fault?_text_eq_none_iff.2 hname,
        List.forall_mem_singleton.2 (RecordPart.fault?_text_eq_none_iff.2 hreason)⟩
    · exact hfits

variable [Json.DepthLimit]

def Writable (files : FileTree) (store : Option PageStore) (c : ObservedClass) : Prop :=
  ∃ r value, ((compile files [c]).run ⟨.empty, store⟩).result = .ok r ∧ r.textRecord = .ok value

theorem writable_iff : Writable files store c ↔
    (((compile files [c]).run ⟨.empty, store⟩).result.toOption.any fun r =>
      r.textRecord.toOption.isSome) = true := by
  have hisSome {ε α : Type} {x : Except ε α} : x.toOption.isSome = true ↔ ∃ a, x = .ok a := by
    cases x <;> simp [Except.toOption]
  rw [Writable]
  cases ((compile files [c]).run ⟨.empty, store⟩).result with
  | error e => simp [Except.toOption]
  | ok r => simp [Except.toOption, ← hisSome]

instance : Decidable (Writable files store c) := decidable_of_iff _ writable_iff.symm

theorem Writable.exists_verdict (h : Writable files store c) (hc : c.Accepted)
    (hstore : ∀ s, store = some s → s.Opened) :
    ∃ outcome, (classVerdict files store c).1 = .ok outcome ∧ Fits (c.name, outcome) := by
  obtain ⟨r, value, hr, hvalue⟩ := h
  have hclasses : ∀ d ∈ [c], d.Accepted := by simpa using hc
  have hverdicts := (exists_visitAll_iff hclasses rfl hstore).1 (exists_compile_iff.1 ⟨r, hr⟩)
  obtain ⟨outcome, houtcome⟩ := hverdicts c List.mem_cons_self
  obtain ⟨alone, halone, hgathers⟩ := compile_alone hc rfl hstore houtcome
  cases halone.symm.trans hr
  exact ⟨outcome, houtcome, ((exists_textRecord_iff hgathers).1 ⟨value, hvalue⟩).1 _
    List.mem_cons_self⟩

theorem mem_turns {e : Exclusions} {t : Text × Verdict} (h : t ∈ turns files store e classes) :
    ∃ c ∈ classes, ∃ excluded, t = (c.name, visitVerdict files store excluded c) := by
  induction classes generalizing e with
  | nil => cases h
  | cons c rest ih =>
    rw [turns] at h
    rcases List.mem_cons.1 h with rfl | h
    · exact ⟨c, List.mem_cons_self, _, rfl⟩
    · obtain ⟨d, hd, excluded, rfl⟩ := ih h
      exact ⟨d, List.mem_cons_of_mem _ hd, excluded, rfl⟩

theorem mem_names_of_unused (hexclusions : session.exclusions = .ofNames names consuming)
    (h : ((compile files classes).run session).result = .ok r) {name : Text}
    (hname : name ∈ r.unusedExclusions) : name ∈ (Exclusions.ofNames names consuming).names := by
  have hsource := ((PageStore.runsAs_compile classes).result_eq session).trans h
  rw [hexclusions] at hsource
  have haccounts := (PageStore.source files).accounts classes session.store names
  cases consuming with
  | true => exact (haccounts.kept r hsource).mem_iff.1 (List.mem_append_right _ hname)
  | false => exact (((haccounts.unused r hsource).2 name).1 hname).1

theorem fits_of_mem_turns {e : Exclusions} {outcomes : List (Text × Outcome)}
    (hverdicts : ∀ c ∈ classes, ∃ outcome, (classVerdict files store c).1 = .ok outcome ∧
      Fits (c.name, outcome)) (hnames : ∀ c ∈ classes, c.name.isTorn = false)
    (h : (inTurn (turns files store e classes)).1 = .ok outcomes) :
    ∀ place ∈ outcomes, place.1.isTorn = false ∧ Fits place := by
  intro place hplace
  obtain ⟨t, ht, hname, hresult⟩ := exists_of_mem_forall₂ (inTurn_eq_ok_iff.1 h) hplace
  obtain ⟨c, hc, excluded, rfl⟩ := mem_turns ht
  obtain ⟨name, outcome⟩ := place
  cases hname
  refine ⟨hnames c hc, ?_⟩
  cases excluded with
  | true =>
    cases hresult
    exact List.forall_mem_singleton.2 (RecordPart.fault?_text_eq_none_iff.2 (hnames c hc))
  | false =>
    obtain ⟨outcome', houtcome', hfits⟩ := hverdicts c hc
    cases houtcome'.symm.trans hresult
    exact hfits

theorem exists_writable (hclasses : ∀ c ∈ classes, c.Accepted)
    (hstore : ∀ s, session.store = some s → s.Opened)
    (hwritable : ∀ c ∈ classes, Writable files session.store c)
    (hexclusions : session.exclusions = .ofNames names consuming)
    (hnames : ∀ name ∈ (Exclusions.ofNames names consuming).names, name.isTorn = false) :
    ∃ r value, ((compile files classes).run session).result = .ok r ∧
      r.textRecord = .ok value := by
  have hreadable : ∀ c ∈ classes, c.Readable := fun c hc => (hclasses c hc).readable
  have hverdicts := fun c hc => (hwritable c hc).exists_verdict (hclasses c hc) hstore
  have hstores : StoresAs files session.store session.store := storesAs_refl hstore
  obtain ⟨r, hr⟩ := compile_ok_of_verdicts hreadable
    (fun c hc => (hverdicts c hc).imp fun _ => And.left) hstores
  obtain ⟨places, hplaces, hgathers⟩ := compile_eq_ok hr
  obtain ⟨outcomes, houtcomes, rfl⟩ := ledger_eq_ok hplaces
  obtain ⟨session', -, hrun⟩ := visitAll_run hreadable hstores
  rw [hrun] at houtcomes
  have hfits := fits_of_mem_turns hverdicts (fun c hc => (hclasses c hc).not_isTorn_name)
    houtcomes
  obtain ⟨value, hvalue⟩ := (exists_textRecord_iff hgathers).2 ⟨fits_of_mem_recordFrom hfits,
    fun name hname => hnames name (mem_names_of_unused hexclusions hr hname)⟩
  exact ⟨r, value, hr, hvalue⟩

end Batch
end ApiStubs
