import ApiStubs.Proofs.Batch.Run
import ApiStubs.Proofs.Batch.Source

/-! A run over the store of pages, taken as a source, is the run over the files: it comes to the
same result with the same reports, and leaves the same store. -/

namespace ApiStubs

namespace Traced

variable {σ τ ε δ α β : Type} {R : σ → τ → Prop} {wrap : ε → δ}

/-- Whatever the first does, the second does too, and it ends in a related state. -/
def Mirrors (R : σ → τ → Prop) (wrap : ε → δ) (x : Traced σ ε α) (y : Traced τ δ α) : Prop :=
  ∀ s t, R s t → ∃ t', R (x.run s).state t' ∧
    y.run t = ⟨(x.run s).result.mapError wrap, (x.run s).reports, t'⟩

theorem Mirrors.pure (a : α) :
    Mirrors R wrap (Pure.pure a : Traced σ ε α) (Pure.pure a : Traced τ δ α) :=
  fun _ t h => ⟨t, h, rfl⟩

theorem Mirrors.bind {x : Traced σ ε α} {y : Traced τ δ α} {f : α → Traced σ ε β}
    {g : α → Traced τ δ β} (hx : Mirrors R wrap x y) (hf : ∀ a, Mirrors R wrap (f a) (g a)) :
    Mirrors R wrap (x >>= f) (y >>= g) := by
  intro s t hst
  obtain ⟨t', hst', hy⟩ := hx s t hst
  rcases hrun : x.run s with ⟨e | a, reports, s'⟩
  · rw [hrun] at hy hst'
    exact ⟨t', by rw [bind_run_error f hrun]; exact hst', by
      rw [bind_run_error f hrun, bind_run_error g hy]
      rfl⟩
  · rw [hrun] at hy hst'
    obtain ⟨t'', hst'', hg⟩ := hf a s' t' hst'
    exact ⟨t'', by rw [bind_run_ok f hrun]; exact hst'', by
      rw [bind_run_ok f hrun, bind_run_ok g hy, hg]⟩

end Traced

open Traced (Mirrors)

namespace Merging

variable {α : Type}

def AsksNothing (x : Merging α) : Prop :=
  ∀ l, x.run l = ⟨(x.run noSource).result, (x.run noSource).reports, l⟩

theorem asksNothing_made (x : Except Fault α) : AsksNothing (made x) := by
  intro l
  cases x <;> rfl

theorem asksNothing_chooseField (className : Text) (expected : Field)
    (documented : Option (Text × Option Field)) :
    AsksNothing (Merge.chooseField className expected documented) := by
  intro l
  obtain - | ⟨page, - | d⟩ := documented
  · rfl
  · rfl
  · rw [Merge.chooseField]
    split_ifs <;> rfl

theorem asksNothing_chooseMethod (className : Text) (observed : Method)
    (documented : Option (Text × List Method)) :
    AsksNothing (Merge.chooseMethod className observed documented) := by
  intro l
  obtain - | ⟨page, overloads⟩ := documented
  · rfl
  · rw [Merge.chooseMethod]
    rcases observed.findMatch? true overloads with fault | - | d <;> rfl

end Merging

namespace PageStore

open Batch Merging

variable {files : FileTree} {α : Type}

def SameState (session : Session) (state : Exclusions × Option PageStore) : Prop :=
  state = (session.exclusions, session.store)

abbrev RunsAs {α : Type} (x : Batch.Running α) (y : Source.Running PageStore Abort α) : Prop :=
  Mirrors SameState id x y

theorem runsAs_exclude (className : Text) :
    RunsAs (Batch.exclude className) (Source.exclude className) := by
  rintro session _ rfl
  exact ⟨_, rfl, rfl⟩

theorem runsAs_onSource {α : Type} (x : Compiling α) :
    RunsAs (Batch.onStore x) (Source.onSource x) := by
  rintro session _ rfl
  refine ⟨_, rfl, ?_⟩
  change (Trace.mk (x.run session.store).result _ _ : Trace _ _ _) =
    ⟨(x.run session.store).result.mapError id, _, _⟩
  cases (x.run session.store).result <;> rfl

theorem runsAs_finish (outcomes : List (Text × Outcome)) :
    RunsAs (Batch.finish outcomes) (Source.finish outcomes) := by
  rintro session _ rfl
  exact ⟨_, rfl, rfl⟩

/-- A run over the source is a run over the files. -/
theorem RunsAs.run_eq {α : Type} {x : Batch.Running α} {y : Source.Running PageStore Abort α}
    (h : RunsAs x y) (session : Session) :
    y.run (session.exclusions, session.store) =
      ⟨(x.run session).result, (x.run session).reports,
        ((x.run session).state.exclusions, (x.run session).state.store)⟩ := by
  obtain ⟨_, rfl, hrun⟩ := h session _ rfl
  rw [hrun]
  cases (x.run session).result <;> rfl

theorem RunsAs.result_eq {α : Type} {x : Batch.Running α} {y : Source.Running PageStore Abort α}
    (h : RunsAs x y) (session : Session) :
    (y.run (session.exclusions, session.store)).result = (x.run session).result :=
  congrArg Trace.result (h.run_eq session)

/-- The page that is merged over is the one in hand, which keeps its serial number. -/
def InHand (serial : Option Nat) (l : Lookup) (handed : Option Shelved) : Prop :=
  shown handed = l ∧ handed.map Shelved.serial = serial

variable [Json.DepthLimit]

abbrev MergesAs (files : FileTree) (serial : Option Nat) (x : Merging α)
    (y : Source.Asking Shelved Abort α) : Prop :=
  Mirrors (InHand serial) (source files).ofMergeFault x y

variable {serial : Option Nat}

theorem mergesAs_settle {x : Merging α} (h : AsksNothing x) :
    MergesAs files serial x ((source files).settle x) := by
  intro l handed hl
  refine ⟨handed, by rw [h l]; exact hl, ?_⟩
  rw [h l]
  rfl

theorem mergesAs_ask (question : Page → Except DetailFault α × Page) (otherwise : α) :
    MergesAs files serial (Merging.ask question)
      ((source files).ask (asked question otherwise)) := by
  rintro _ handed ⟨rfl, rfl⟩
  obtain - | ⟨n, page | reason⟩ := handed
  · exact ⟨none, ⟨rfl, rfl⟩, rfl⟩
  · refine ⟨some ⟨n, .found (question page).2⟩, ⟨rfl, rfl⟩, ?_⟩
    change (Trace.mk (Except.map _ ((question page).1.mapError _)) [] _ : Trace _ _ _) =
      ⟨((question page).1.map _ |>.mapError _).mapError _, [], _⟩
    cases (question page).1 <;> rfl
  · exact ⟨some ⟨n, .missing reason⟩, ⟨rfl, rfl⟩, rfl⟩

theorem mergesAs_resolveField (className : Text) (f : ObservedField) :
    MergesAs files serial (Merge.resolveField className f)
      ((source files).resolveField className f) := by
  rw [Merge.resolveField, Source.resolveField]
  split_ifs
  · exact .bind (mergesAs_settle (asksNothing_made _)) fun expected =>
      .bind (mergesAs_ask _ none) fun documented =>
        mergesAs_settle (asksNothing_chooseField className expected documented)
  · exact mergesAs_settle (asksNothing_made _)

theorem mergesAs_fieldsFrom (className : Text) (taken : List Text) (fs : List ObservedField) :
    MergesAs files serial (Merge.fieldsFrom className taken fs)
      ((source files).fieldsFrom className taken fs) := by
  induction fs generalizing taken with
  | nil => exact .pure []
  | cons f rest ih =>
    rw [Merge.fieldsFrom, Source.fieldsFrom]
    split_ifs
    · exact ih taken
    · exact .bind (mergesAs_resolveField className f) fun resolved =>
        .bind (ih (f.name :: taken)) fun others => .pure (resolved :: others)

theorem mergesAs_resolveMethod (className : Text) (m : ObservedMethod) :
    MergesAs files serial (Merge.resolveMethod className m)
      ((source files).resolveMethod className m) :=
  .bind (mergesAs_settle (asksNothing_made _)) fun observed =>
    .bind (mergesAs_ask _ []) fun documented =>
      mergesAs_settle (asksNothing_chooseMethod className observed documented)

theorem mergesAs_methodsFrom (className : Text) (taken : List (Text × List Text))
    (ms : List ObservedMethod) :
    MergesAs files serial (Merge.methodsFrom className taken ms)
      ((source files).methodsFrom className taken ms) := by
  induction ms generalizing taken with
  | nil => exact .pure []
  | cons m rest ih =>
    rw [Merge.methodsFrom, Source.methodsFrom]
    split_ifs
    · exact ih taken
    · refine .bind (mergesAs_resolveMethod className m) fun resolved => ?_
      dsimp only
      split_ifs
      · exact ih taken
      · exact .bind (ih (resolved.signature true :: taken)) fun others =>
          .pure (resolved :: others)

theorem mergesAs_wholeClass (c : ObservedClass) :
    MergesAs files serial (Merge.wholeClass c) ((source files).wholeClass c) :=
  .bind (mergesAs_fieldsFrom c.name [] c.fields) fun _ =>
    .bind (mergesAs_methodsFrom c.name [] c.methods) fun _ =>
      mergesAs_settle (asksNothing_made _)

theorem source_conclude (c : ObservedClass) (handed : Option Shelved)
    (result : Except MergeFault ClassStub) :
    (source files).conclude c handed (result.mapError (source files).ofMergeFault) =
      Batch.conclude c (shown handed) result := by
  rcases result with (fault | fault) | stub
  · rfl
  · rfl
  · obtain - | ⟨n, page | reason⟩ := handed <;> rfl

theorem source_handBack (pagePath : Text) {handed handed' : Option Shelved} {l : Lookup}
    (h : InHand (handed.map Shelved.serial) l handed') (store : Option PageStore) :
    (source files).handBack pagePath handed' store = putBack pagePath handed l store := by
  obtain ⟨rfl, hserial⟩ := h
  cases handed' with
  | none =>
    cases Option.map_eq_none_iff.1 hserial.symm
    cases store <;> rfl
  | some later =>
    obtain ⟨first, rfl, hfirst⟩ := Option.map_eq_some_iff.1 hserial.symm
    cases store with
    | none => rfl
    | some s =>
      change some (s.update pagePath later) = some (s.update pagePath ⟨first.serial, later.lookup⟩)
      rw [hfirst]

theorem source_mergeWith (c : ObservedClass) (pagePath : Text) (handed : Option Shelved) :
    (source files).mergeWith c pagePath handed = Batch.mergeWith c pagePath handed := by
  funext store
  have hmerges : MergesAs files (handed.map Shelved.serial) _ _ := mergesAs_wholeClass c
  obtain ⟨handed', hinHand, hrun⟩ := hmerges (shown handed) handed ⟨rfl, rfl⟩
  rw [Source.mergeWith, hrun]
  dsimp only
  rw [source_conclude, source_handBack pagePath hinHand, hinHand.1]
  rfl

theorem source_receive (className pagePath : Text) (answer : Except PageFault Shelved) :
    (source files).receive className pagePath (answer.mapError sourceFault) =
      Batch.receive className pagePath answer := by
  rcases answer with (⟨path, problem⟩ | cause) | ⟨n, page | reason⟩ <;> rfl

theorem source_consult (className pagePath : Text) :
    (source files).consult className pagePath = Batch.consult files className pagePath := by
  funext store
  cases store with
  | none => rfl
  | some s =>
    exact congrArg (fun x => x.run (some (s.fetch files pagePath).2))
      (source_receive className pagePath (s.fetch files pagePath).1)

theorem source_compileClass (c : ObservedClass) :
    (source files).compileClass c = Batch.compileClass files c := by
  rw [Source.compileClass, Batch.compileClass]
  cases pagePath? c.name with
  | none => rfl
  | some pagePath =>
    dsimp only
    rw [source_consult]
    refine bind_congr fun handed => ?_
    exact source_mergeWith c pagePath handed

theorem runsAs_visit (c : ObservedClass) :
    RunsAs (Batch.visit files c) ((source files).visit c) := by
  refine .bind (runsAs_exclude c.name) fun excluded => ?_
  cases excluded with
  | true => exact .pure Outcome.excluded
  | false =>
    rw [source_compileClass]
    exact runsAs_onSource _

theorem runsAs_visitAll (classes : List ObservedClass) :
    RunsAs (Batch.visitAll files classes) ((source files).visitAll classes) := by
  induction classes with
  | nil => exact .pure []
  | cons c rest ih =>
    exact .bind (runsAs_visit c) fun outcome => .bind ih fun others =>
      .pure ((c.name, outcome) :: others)

theorem runsAs_compile (classes : List ObservedClass) :
    RunsAs (Batch.compile files classes) ((source files).compile classes) :=
  .bind (runsAs_visitAll classes) runsAs_finish

end PageStore
end ApiStubs
