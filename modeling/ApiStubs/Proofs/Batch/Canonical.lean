import ApiStubs.Proofs.Batch.Places
import ApiStubs.Proofs.Documented.Record

/-! Merged classes are canonical whatever the source of documentation, if the documents give nothing
but what is: all that merging puts together was made safe where it was read, by the side of the
running program or by that of the document. -/

namespace ApiStubs

namespace Merge

theorem canonical_bare {f : ObservedField} (h : f.Readable) : f.bare.Canonical :=
  ⟨TypeExpr.safe_of_make (ObservedType.Readable.toType_eq h) nofun,
    Modifiers.normalize_normalize f.modifiers⟩

theorem Describes.canonical {m : ObservedMethod} {o : Method} (h : Describes m o) :
    o.Canonical := by
  obtain ⟨params, -, hmade⟩ := bind_eq_ok_iff.1 h.made
  obtain ⟨returns, hreturns, hreturn⟩ := bind_eq_ok_iff.1 hmade
  have hconstructed := h.constructed
  cases hreturn
  exact ⟨hconstructed, TypeExpr.safe_of_make hreturns nofun, Modifiers.normalize_normalize _⟩

/-- The field is the expected one, or the documented one with the modifiers of the expected one. -/
theorem chooseField_result {className : Text} {expected made : Field}
    {documented : Option (Text × Option Field)}
    (h : ((chooseField className expected documented).run noSource).result = .ok made) :
    made = expected ∨ ∃ page d, documented = some (page, some d) ∧
      made = d.withModifiers expected.modifiers := by
  obtain - | ⟨page, - | d⟩ := documented
  · exact .inl (Except.ok.inj h).symm
  · exact .inl (Except.ok.inj h).symm
  · rw [chooseField] at h
    split_ifs at h
    · exact .inr ⟨page, d, rfl, (Except.ok.inj h).symm⟩
    · exact .inl (Except.ok.inj h).symm

theorem chooseMethod_result {className : Text} {observed made : Method}
    {documented : Option (Text × List Method)}
    (h : ((chooseMethod className observed documented).run noSource).result = .ok made) :
    made = observed ∨ ∃ page overloads, documented = some (page, overloads) ∧ made ∈ overloads := by
  obtain - | ⟨page, overloads⟩ := documented
  · exact .inl (Except.ok.inj h).symm
  · obtain ⟨found, hfound, hrest⟩ := Traced.exists_of_bind_ok h
    cases hfind : observed.findMatch? true overloads with
    | error fault => rw [hfind] at hfound; cases hfound
    | ok made? =>
      rw [hfind] at hfound
      cases hfound
      cases found with
      | none => exact .inl (Except.ok.inj hrest).symm
      | some d =>
        cases hrest
        obtain ⟨index, -, hindex⟩ := bind_eq_ok_iff.1 hfind
        obtain ⟨i, -, hd⟩ := Option.bind_eq_some_iff.1 (Except.ok.inj hindex)
        exact .inr ⟨page, overloads, rfl, List.mem_of_getElem? hd⟩

end Merge

def Batch.Outcome.Canonical (outcome : Outcome) : Prop :=
  ∀ stub, outcome = .merged stub → stub.Canonical

/-- Documents give canonical members, as long as `I` holds of the state of the source and `J` of
what it hands out. -/
structure Source.GivesCanonical {σ κ ε : Type} (source : Source σ κ ε) (I : σ → Prop)
    (J : κ → Prop) : Prop where
  page : ∀ pagePath s, I s →
    I (source.page pagePath s).2 ∧ ∀ k, (source.page pagePath s).1 = .ok k → J k
  putBack : ∀ pagePath k s, J k → I s → I (source.putBack pagePath k s)
  field : ∀ name k, J k → J (source.field? name k).2 ∧
    ∀ found, (source.field? name k).1 = .ok found → ∀ d ∈ found, d.Canonical
  methods : ∀ name k, J k → J (source.methodsNamed name k).2 ∧
    ∀ ds, (source.methodsNamed name k).1 = .ok ds → ∀ d ∈ ds, d.Canonical

namespace Source

open Batch Traced

variable {σ κ ε α : Type} {source : Source σ κ ε} {I : σ → Prop} {J : κ → Prop}

theorem ensures_settle {P : α → Prop} {K : Option κ → Prop} {x : Merging α}
    (h : ∀ a, (x.run noSource).result = .ok a → P a) : Ensures K P (source.settle x) :=
  fun _ hhanded => ⟨hhanded, fun a ha => h a (mapError_eq_ok ha)⟩

theorem ensures_made {P : α → Prop} {K : Option κ → Prop} {x : Except Fault α}
    (h : ∀ a, x = .ok a → P a) : Ensures K P (source.settle (Merging.made x)) := by
  refine ensures_settle fun a ha => h a ?_
  cases x with
  | error fault => cases ha
  | ok b => exact congrArg _ (Except.ok.inj ha)

def IfAny (J : κ → Prop) (handed : Option κ) : Prop := ∀ k ∈ handed, J k

theorem ask_run_some (question : κ → Except (DocumentFault ε) α × κ) (k : κ) :
    (source.ask question).run (some k) =
      match source.documentName? k with
      | none => ⟨.ok none, [], some k⟩
      | some name => ⟨(question k).1.map fun a => some (name, a), [], some (question k).2⟩ := rfl

theorem ensures_ask {P : α → Prop} {question : κ → Except (DocumentFault ε) α × κ}
    (h : ∀ k, J k → J (question k).2 ∧ ∀ a, (question k).1 = .ok a → P a) :
    Ensures (IfAny J) (fun answer : Option (Text × α) => ∀ page a, answer = some (page, a) → P a)
      (source.ask question) := by
  have hnone : ∀ answer : Option (Text × α), Except.ok (ε := DocumentFault ε) none = .ok answer →
      ∀ page a, answer = some (page, a) → P a := by
    rintro answer hanswer page a rfl
    cases hanswer
  intro handed hhanded
  cases handed with
  | none => exact ⟨hhanded, hnone⟩
  | some k =>
    obtain ⟨hkept, hanswer⟩ := h k (hhanded k rfl)
    rw [ask_run_some]
    cases source.documentName? k with
    | none => exact ⟨hhanded, hnone⟩
    | some name =>
      refine ⟨fun k' hk' => Option.some.inj hk' ▸ hkept, ?_⟩
      rintro answer hmap page a rfl
      cases hquestion : (question k).1 with
      | error fault => rw [hquestion] at hmap; cases hmap
      | ok b =>
        rw [hquestion] at hmap
        cases hmap
        exact hanswer _ hquestion

theorem ensures_receive {K : Option σ → Prop} {answer : Except (SourceFault ε) κ}
    (className pagePath : Text) (h : ∀ k, answer = .ok k → J k) :
    Ensures K (IfAny J) (source.receive className pagePath answer) := by
  rcases answer with (message | cause) | k
  · exact .bind (.report _) fun _ _ => .pure nofun
  · exact .fail cause
  · have hk : IfAny J (some k) := fun k' hk' => Option.some.inj hk' ▸ h k rfl
    rw [receive]
    split_ifs
    · exact .bind (.report _) fun _ _ => .pure hk
    · exact .pure hk

theorem mergeWith_state (c : ObservedClass) (pagePath : Text) (handed : Option κ)
    (state : Option σ) :
    ((source.mergeWith c pagePath handed).run state).state =
      source.handBack pagePath ((source.wholeClass c).run handed).state state := by
  change ((source.conclude c _ ((source.wholeClass c).run handed).result).run _).state = _
  rcases ((source.wholeClass c).run handed).result with (⟨document, message⟩ | cause) | stub <;> rfl

theorem ensures_onSource {K : Option σ → Prop} {P : α → Prop} {x : Traced (Option σ) ε α}
    (h : Ensures K P x) : Ensures (fun before => K before.2) P (onSource x) :=
  fun before hbefore => h before.2 hbefore

namespace GivesCanonical

variable (h : source.GivesCanonical I J) {c : ObservedClass}
include h

theorem ensures_resolveField {f : ObservedField} (className : Text) (hf : f.Readable) :
    Ensures (IfAny J) Field.Canonical (source.resolveField className f) := by
  rw [resolveField]
  split_ifs
  · refine .bind (P := Field.Canonical) (ensures_made fun a ha => ?_) fun expected hexpected =>
      .bind (ensures_ask (h.field f.name)) fun documented hdocumented =>
        ensures_settle fun made hmade => ?_
    · rw [Merge.placeholder_eq hf] at ha
      exact Except.ok.inj ha ▸ Merge.canonical_bare hf
    · rcases Merge.chooseField_result hmade with rfl | ⟨page, d, rfl, rfl⟩
      · exact hexpected
      · exact ⟨(hdocumented page _ rfl d rfl).type, Modifiers.normalize_normalize _⟩
  · refine ensures_made fun a ha => ?_
    rw [hf.toField_eq] at ha
    exact Except.ok.inj ha ▸ Merge.canonical_bare hf

theorem ensures_fieldsFrom {fields : List ObservedField} (className : Text) (taken : List Text)
    (hfields : ∀ f ∈ fields, f.Readable) :
    Ensures (IfAny J) (fun made => ∀ f ∈ made, f.Canonical)
      (source.fieldsFrom className taken fields) := by
  induction fields generalizing taken with
  | nil => exact .pure nofun
  | cons f rest ih =>
    obtain ⟨hf, hrest⟩ := List.forall_mem_cons.1 hfields
    rw [fieldsFrom]
    split_ifs
    · exact ih taken hrest
    · exact .bind (h.ensures_resolveField className hf) fun r hr =>
        .bind (ih _ hrest) fun rs hrs => .pure (List.forall_mem_cons.2 ⟨hr, hrs⟩)

theorem ensures_resolveMethod {m : ObservedMethod} (className : Text) (hm : m.Readable) :
    Ensures (IfAny J) Method.Canonical (source.resolveMethod className m) := by
  obtain ⟨o, ho⟩ := Merge.exists_describes hm
  refine .bind (P := (· = o)) (ensures_made fun a ha => ?_) fun observed hobserved =>
    .bind (ensures_ask (h.methods m.name)) fun documented hdocumented =>
      ensures_settle fun made hmade => ?_
  · rw [ho.made] at ha
    exact (Except.ok.inj ha).symm
  · subst hobserved
    rcases Merge.chooseMethod_result hmade with rfl | ⟨page, overloads, rfl, hmem⟩
    · exact ho.canonical
    · exact hdocumented page overloads rfl made hmem

theorem ensures_methodsFrom {methods : List ObservedMethod} (className : Text)
    (taken : List (Text × List Text)) (hmethods : ∀ m ∈ methods, m.Readable) :
    Ensures (IfAny J) (fun made => ∀ m ∈ made, m.Canonical)
      (source.methodsFrom className taken methods) := by
  induction methods generalizing taken with
  | nil => exact .pure nofun
  | cons m rest ih =>
    obtain ⟨hm, hrest⟩ := List.forall_mem_cons.1 hmethods
    rw [methodsFrom]
    split_ifs
    · exact ih taken hrest
    · refine .bind (h.ensures_resolveMethod className hm) fun r hr => ?_
      dsimp only
      split_ifs
      · exact ih taken hrest
      · exact .bind (ih _ hrest) fun rs hrs => .pure (List.forall_mem_cons.2 ⟨hr, hrs⟩)

theorem ensures_wholeClass (hc : c.Readable) :
    Ensures (IfAny J) ClassStub.Canonical (source.wholeClass c) := by
  refine .bind (h.ensures_fieldsFrom c.name [] hc.fields) fun fields hfields =>
    .bind (h.ensures_methodsFrom c.name [] hc.methods) fun methods hmethods =>
      ensures_made fun stub hstub => ?_
  obtain ⟨hnames, hsignatures, rfl⟩ := ClassStub.make_eq_ok_iff.1 hstub
  exact ⟨Modifiers.normalize_normalize _, hfields, hmethods, hnames, hsignatures⟩

theorem ensures_mergeWith (hc : c.Readable) (pagePath : Text) {handed : Option κ}
    (hhanded : IfAny J handed) :
    Ensures (IfAny I) Outcome.Canonical (source.mergeWith c pagePath handed) := by
  intro state hstate
  obtain ⟨hback, hmade⟩ := h.ensures_wholeClass hc handed hhanded
  refine ⟨?_, fun outcome houtcome stub hstub => hmade stub ?_⟩
  · rw [mergeWith_state]
    generalize ((source.wholeClass c).run handed).state = after at hback
    cases after with
    | none => exact hstate
    | some k =>
      cases state with
      | none => exact hstate
      | some s => exact fun _ hs => Option.some.inj hs ▸
          h.putBack pagePath k s (hback k rfl) (hstate s rfl)
  · rw [mergeWith_result, hstub] at houtcome
    rcases hresult : ((source.wholeClass c).run handed).result with
      (⟨document, message⟩ | cause) | made
    · rw [hresult] at houtcome
      cases houtcome
    · rw [hresult] at houtcome
      cases houtcome
    · rw [hresult] at houtcome
      cases houtcome
      rfl

theorem ensures_consult (className pagePath : Text) :
    Ensures (IfAny I) (IfAny J) (source.consult className pagePath) := by
  intro state hstate
  cases state with
  | none => exact ⟨hstate, fun handed hhanded => Except.ok.inj hhanded ▸ nofun⟩
  | some s =>
    obtain ⟨hafter, hhands⟩ := h.page pagePath s (hstate s rfl)
    exact ensures_receive className pagePath hhands (some (source.page pagePath s).2)
      fun _ hs => Option.some.inj hs ▸ hafter

theorem ensures_compileClass (hc : c.Readable) :
    Ensures (IfAny I) Outcome.Canonical (source.compileClass c) := by
  rw [compileClass]
  cases pagePath? c.name with
  | none => exact .bind (.report _) fun _ _ => .pure fun _ hstub => by cases hstub
  | some pagePath =>
    exact .bind (h.ensures_consult c.name pagePath) fun handed hhanded =>
      h.ensures_mergeWith hc pagePath hhanded

theorem ensures_visit (hc : c.Readable) :
    Ensures (fun before => IfAny I before.2) Outcome.Canonical (source.visit c) := by
  have hexclude : Ensures (fun before => IfAny I before.2) (fun _ => True)
      (exclude c.name : Running σ ε Bool) := fun _ hbefore => ⟨hbefore, fun _ _ => trivial⟩
  refine hexclude.bind fun excluded _ => ?_
  cases excluded with
  | true => exact .pure nofun
  | false => exact ensures_onSource (h.ensures_compileClass hc)

theorem ensures_visitAll {classes : List ObservedClass} (hclasses : ∀ c ∈ classes, c.Readable) :
    Ensures (fun before => IfAny I before.2) (fun outcomes => ∀ o ∈ outcomes, o.2.Canonical)
      (source.visitAll classes) := by
  induction classes with
  | nil => exact .pure nofun
  | cons c rest ih =>
    obtain ⟨hc, hrest⟩ := List.forall_mem_cons.1 hclasses
    exact .bind (h.ensures_visit hc) fun outcome houtcome => .bind (ih hrest) fun others hothers =>
      .pure (List.forall_mem_cons.2 ⟨houtcome, hothers⟩)

theorem canonical_of_mem_classes {classes : List ObservedClass} {before : Exclusions × Option σ}
    {r : Compilation} (hclasses : ∀ c ∈ classes, c.Readable)
    (hstate : ∀ s, before.2 = some s → I s)
    (hr : ((source.compile classes).run before).result = .ok r) :
    ∀ stub ∈ r.classes, stub.Canonical := by
  obtain ⟨outcomes, houtcomes, hgathers⟩ := compile_eq_ok hr
  have hcanonical := (h.ensures_visitAll hclasses before hstate).2 outcomes houtcomes
  intro stub hstub
  rw [hgathers.classes] at hstub
  obtain ⟨place, hplace, hmerged⟩ := List.mem_filterMap.1 hstub
  obtain ⟨name, rfl⟩ := merged?_eq_some_iff.1 hmerged
  exact hcanonical _ (merged_of_mem_recordFrom hplace) stub rfl

end GivesCanonical

end Source

namespace PageStore

open Batch

variable {files : FileTree} {α : Type}

theorem sound_asked {question : Page → Except DetailFault α × Page} {otherwise : α} {P : α → Prop}
    (hsteady : Page.Steady question) (hotherwise : P otherwise)
    (hquestion : ∀ p : Page, p.Sound → ∀ a, (question p).1 = .ok a → P a) (shelved : Shelved)
    (h : shelved.lookup.Sound) :
    (asked question otherwise shelved).2.lookup.Sound ∧
      ∀ a, (asked question otherwise shelved).1 = .ok a → P a := by
  obtain ⟨serial, page | reason⟩ := shelved
  · exact ⟨hsteady.sound page h, fun a ha => hquestion page h a (mapError_eq_ok ha)⟩
  · exact ⟨trivial, fun a ha => Except.ok.inj ha ▸ hotherwise⟩

theorem givesCanonical [Json.DepthLimit] (files : FileTree) :
    (source files).GivesCanonical Sound (fun shelved => shelved.lookup.Sound) where
  page pagePath s hs := by
    have hanswers : AnswersAs files s s := .refl hs
    obtain ⟨hafter, -, hsound⟩ := hanswers.fetch pagePath
    exact ⟨hafter.sound, fun shelved hshelved => hsound shelved (mapError_eq_ok hshelved)⟩
  putBack pagePath shelved s hshelved hs := hs.update hshelved
  field name := sound_asked (P := fun found : Option Field => ∀ f ∈ found, f.Canonical)
    (Page.steady_field? name) nofun fun _ hp _ hfound => hp.canonical_field? hfound
  methods name := sound_asked (P := fun found : List Method => ∀ m ∈ found, m.Canonical)
    (Page.steady_methodsNamed name) nofun fun _ hp _ hfound => hp.canonical_methodsNamed hfound

end PageStore

theorem Batch.canonical_of_compile [Json.DepthLimit] {files : FileTree}
    {classes : List ObservedClass} {session : Session} {r : Compilation}
    (hclasses : ∀ c ∈ classes, c.Readable)
    (hstore : ∀ s, session.store = some s → s.Opened)
    (hr : ((compile files classes).run session).result = .ok r) :
    ∀ stub ∈ r.classes, stub.Canonical := by
  rw [← (PageStore.runsAs_compile classes).result_eq session] at hr
  exact (PageStore.givesCanonical files).canonical_of_mem_classes hclasses
    (fun s hs => (hstore s hs).sound) hr

end ApiStubs
