import ApiStubs.Proofs.Batch.Canonical
import ApiStubs.Proofs.Batch.Rounds

/-! Merged classes are fit to be written as stubs. Whichever way a member came to the result, its
names can be written as they are, its types have such names at every depth, and its modifiers are in
order. -/

namespace ApiStubs

structure Modifiers.InOrder (words : List Text) : Prop where
  ascending : words.Pairwise (· < ·)
  lower : ∀ word ∈ words, Text.lower word = word
  nonblank : ∀ word ∈ words, Text.trim word ≠ []

structure Param.Sanitized (p : Param) : Prop where
  name : Lua.IsIdentifier p.name
  type : ∃ t, p.type = .ok t ∧ t.EveryName Lua.IsTypeName

structure Field.Sanitized (f : Field) : Prop where
  type : f.type.EveryName Lua.IsTypeName
  modifiers : Modifiers.InOrder f.modifiers

structure Method.Sanitized (m : Method) : Prop where
  params : ∀ p ∈ m.params, p.Sanitized
  returns : m.returns.EveryName Lua.IsTypeName
  modifiers : Modifiers.InOrder m.modifiers

structure ClassStub.Sanitized (c : ClassStub) : Prop where
  modifiers : Modifiers.InOrder c.modifiers
  fields : ∀ f ∈ c.fields, f.Sanitized
  methods : ∀ m ∈ c.methods, m.Sanitized

def Compilation.Sanitized (r : Compilation) : Prop := ∀ c ∈ r.classes, c.Sanitized

theorem Modifiers.inOrder_of_normalized {words : List Text} (h : normalize words = words) :
    InOrder words := by
  have hword : ∀ word ∈ words,
      ∃ text, Text.isBlankText text = false ∧ normalizeWord text = word := by
    intro word hmem
    rw [← h] at hmem
    obtain ⟨text, -, hblank, hword⟩ := mem_normalize.1 hmem
    exact ⟨text, hblank, hword⟩
  refine ⟨h ▸ pairwise_normalize words, fun word hmem => ?_, fun word hmem hnil => ?_⟩
  · obtain ⟨text, -, rfl⟩ := hword word hmem
    exact Text.lower_lower (Text.trim text)
  · obtain ⟨text, hblank, rfl⟩ := hword word hmem
    rw [← isBlankText_normalizeWord, isBlankText_iff.2 hnil] at hblank
    cases hblank

theorem TypeExpr.Safe.everyTypeName {t : TypeExpr} (h : t.Safe) : t.EveryName Lua.IsTypeName :=
  h.everyName.imp fun _ hname => Lua.isTypeName_of_fixed hname.2.1 hname.1

theorem Param.Constructed.sanitized {p : Param} (h : p.Constructed) : p.Sanitized := by
  obtain ⟨t, ht, -⟩ := h.exists_type
  obtain ⟨_, _, name, -, rfl⟩ := h.exists_parse
  exact ⟨Lua.isIdentifier_identifier name, t, ht, (TypeExpr.safe_of_parse ht).everyTypeName⟩

theorem Field.Canonical.sanitized {f : Field} (h : f.Canonical) : f.Sanitized :=
  ⟨h.type.everyTypeName, Modifiers.inOrder_of_normalized h.modifiers⟩

theorem Method.Canonical.sanitized {m : Method} (h : m.Canonical) : m.Sanitized :=
  ⟨fun p hp => (h.params p hp).sanitized, h.returns.everyTypeName,
    Modifiers.inOrder_of_normalized h.modifiers⟩

theorem ClassStub.Canonical.sanitized {c : ClassStub} (h : c.Canonical) : c.Sanitized :=
  ⟨Modifiers.inOrder_of_normalized h.modifiers, fun f hf => (h.fields f hf).sanitized,
    fun m hm => (h.methods m hm).sanitized⟩

/-- Fields are made of a type and words, or come from records. -/
inductive Field.Made : Field → Prop
  | made {name : Text} {type : TypeExpr} {modifiers : List Text} (htype : type.Constructed) :
      Made (.make name type modifiers)
  | checked {value : Json} {f : Field} (h : check value = .ok f) : Made f

inductive Method.Made : Method → Prop
  | made {name : Text} {params : List Param} {returns : TypeExpr} {modifiers : List Text}
      (hparams : ∀ p ∈ params, p.Constructed) (hreturns : returns.Constructed) :
      Made (.make name params returns modifiers)
  | checked {value : Json} {m : Method} (h : check value = .ok m) : Made m

theorem Field.Made.canonical {f : Field} (h : f.Made) : f.Canonical := by
  cases h with
  | made htype => exact ⟨htype.safe, Modifiers.normalize_normalize _⟩
  | checked h => exact (canonical_of_check h).1

theorem Method.Made.canonical {m : Method} (h : m.Made) : m.Canonical := by
  cases h with
  | made hparams hreturns => exact ⟨hparams, hreturns.safe, Modifiers.normalize_normalize _⟩
  | checked h => exact (canonical_of_check h).1

structure Source.GivesMade {σ κ ε : Type} (source : Source σ κ ε) : Prop where
  field : ∀ name k found, (source.field? name k).1 = .ok found → ∀ f ∈ found, f.Made
  methods : ∀ name k found, (source.methodsNamed name k).1 = .ok found → ∀ m ∈ found, m.Made

theorem Source.GivesMade.givesCanonical {σ κ ε : Type} {source : Source σ κ ε}
    (h : source.GivesMade) : source.GivesCanonical (fun _ => True) (fun _ => True) where
  page _ _ _ := ⟨trivial, fun _ _ => trivial⟩
  putBack _ _ _ _ _ := trivial
  field name k _ := ⟨trivial, fun found hfound f hf => (h.field name k found hfound f hf).canonical⟩
  methods name k _ :=
    ⟨trivial, fun found hfound m hm => (h.methods name k found hfound m hm).canonical⟩

namespace Batch

variable {files : FileTree} {classes : List ObservedClass} {session : Session} {r : Compilation}

theorem compile_sanitized [Json.DepthLimit] (hclasses : ∀ c ∈ classes, c.Readable)
    (hstore : ∀ s, session.store = some s → s.Opened)
    (hr : ((compile files classes).run session).result = .ok r) : r.Sanitized := fun c hc =>
  (canonical_of_compile hclasses hstore hr c hc).sanitized

/-- The result of a run is sanitized: by one worker or by several, by turns of any order or in
rounds, and with any source of documentation whose members are made of types and words. -/
theorem stubs_are_sanitized [Json.DepthLimit] (hclasses : ∀ c ∈ classes, c.Accepted)
    (hstore : ∀ s, session.store = some s → s.Opened) :
    (∀ r, ((compile files classes).run session).result = .ok r → r.Sanitized) ∧
      (∀ workers r, ((compileWith files workers classes).run session).result = .ok r →
        r.Sanitized) ∧
      (∀ (workers : Nat) (schedule : List Nat) r,
        let drive : Pool → Pool := fun p => schedule.foldl (Pool.step files) p
        let p := drive (.opening workers (jobsOf session.exclusions 0 classes) session.store)
        session.exclusions.isPure = true → 0 < workers → p.isFinished = true →
          ((compileShared drive workers classes).run session).result = .ok r → r.Sanitized) ∧
      ∀ {σ κ ε : Type} (source : Source σ κ ε) (before : Exclusions × Option σ) r,
        source.GivesMade → ((source.compile classes).run before).result = .ok r → r.Sanitized := by
  have hreadable : ∀ c ∈ classes, c.Readable := fun c hc => (hclasses c hc).readable
  have hself : StoresAs files session.store session.store := storesAs_refl hstore
  refine ⟨fun r hr => compile_sanitized hreadable hstore hr, fun workers r hr => ?_, ?_, ?_⟩
  · obtain ⟨hpure, hworkers⟩ := compileWith_eq_ok hr
    have hsame := compileWith_result hreadable hpure hself hworkers
    rw [hr] at hsame
    exact compile_sanitized hreadable hstore (eq_ok_of_toOption hsame.symm)
  · intro workers schedule r drive p hpure hworkers hfinished hr
    have hsame := compileShared_result hreadable hpure hself hworkers (show drive _ = p from rfl)
      rfl hfinished
    rw [hr] at hsame
    exact compile_sanitized hreadable hstore (eq_ok_of_toOption hsame.symm)
  · intro σ κ ε source before r hgives hr c hc
    exact (hgives.givesCanonical.canonical_of_mem_classes hreadable (fun _ _ => trivial) hr c
      hc).sanitized

attribute [local instance] Json.DepthLimit.usual

/-- One class whose members come from all sides: documented, with and without a page, and written
with blanks, capitals and reserved words; by two workers, and with a source that documents every
field alike. -/
theorem stubs_are_sanitized_mixed :
    let octets := fun s : String => s.toList.map fun ch => UInt8.ofNat ch.toNat
    let docs : Place := Place.working.enter (octets "docs")
    let fields := "\x7b\x22name\x22: \x22items\x22, \x22type\x22: \x22Map< Any,List< VOID>>\x22\x7d"
    let methods := "\x7b\x22name\x22: \x22put\x22, \x22parameters\x22: [" ++
      "\x7b\x22type\x22: \x22List< String >\x22, \x22name\x22: \x22end \x22\x7d], " ++
      "\x22modifiers\x22: [\x22Static\x22, \x22 PUBLIC \x22, \x22 \x22]\x7d"
    let files : FileTree := ⟨[(docs, .directory), (docs.enter (octets "Box.json"), .file (octets
      ("\x7b\x22fields\x22: [" ++ fields ++ "], \x22methods\x22: [" ++ methods ++ "]\x7d")))]⟩
    let classes : List ObservedClass := [⟨"Box", ["PUBLIC", "Final", "final"],
      [⟨"items", ⟨"Map", ["K", "V"]⟩, ["Private"], false⟩, ⟨"rest", ⟨"List", ["T"]⟩, [], false⟩,
        ⟨"flag", ⟨"Boolean", []⟩, [], false⟩],
      [⟨"put", [⟨⟨"List", []⟩, "p0"⟩], ⟨"Any", []⟩, [], false⟩,
        ⟨"run", [⟨⟨"Table", []⟩, " repeat"⟩], ⟨"Self", []⟩, [], false⟩]⟩]
    let session : Session := ⟨.ofNames ["Out"] false, some (.ofRoot (.ofText "docs"))⟩
    let schedule : List Nat := (List.replicate 8 [0, 1]).flatten
    let drive : Pool → Pool := fun p => schedule.foldl (Pool.step files) p
    let p := drive (.opening 2 (jobsOf session.exclusions 0 classes) session.store)
    let source : Source Unit Unit Fault := {
      page := fun _ s => (.ok (), s)
      putBack := fun _ _ s => s
      documentName? := fun _ => some "Box"
      field? := fun name k => (.ok (some (.make name ⟨"Map", [⟨"K", []⟩]⟩ [" Open "])), k)
      methodsNamed := fun _ k => (.ok [], k)
      fault := fun fault => fault }
    (∀ c ∈ classes, c.Accepted) ∧ (∀ s, session.store = some s → s.Opened) ∧
      session.exclusions.isPure = true ∧ p.isFinished = true ∧ source.GivesMade ∧
      (∃ r, ((compile files classes).run session).result = .ok r ∧ r.Sanitized) ∧
      (∃ r, ((compileWith files 2 classes).run session).result = .ok r ∧ r.Sanitized ∧
        r.classes.flatMap (fun c => c.fields.map Field.render ++ c.methods.map Method.render) =
          ["Map<any, List<void>> items", "List rest", "boolean flag", "void put(List<string> _end)",
            "self run(table _repeat)"].map Text.ofString ∧
        r.classes.flatMap (fun c => c.methods.flatMap Method.modifiers) =
          ["public", "static"].map Text.ofString) ∧
      (∃ r, ((compileShared drive 2 classes).run session).result = .ok r ∧ r.Sanitized) ∧
      ∃ r, ((source.compile classes).run (session.exclusions, some ())).result = .ok r ∧
        r.Sanitized := by
  intro octets docs fields methods files classes session schedule drive p source
  have hclasses : ∀ c ∈ classes, c.Accepted := by
    have hrecords : ∀ c ∈ classes,
        ((ObservedClass.check c.toJson).result "ReflectedClass").toOption = some c := by
      decide +kernel
    exact fun c hc => ObservedClass.accepted_of_record (hrecords c hc)
  have hstore : ∀ s, session.store = some s → s.Opened := by
    rintro s hs
    cases hs
    exact PageStore.opened_ofRoot _
  have hpure : session.exclusions.isPure = true := rfl
  have hfinished : p.isFinished = true := by decide +kernel
  have hparse : (TypeExpr.parse "Map<K>").toOption = some ⟨"Map", [⟨"K", []⟩]⟩ := by
    decide +kernel
  have htype := (TypeExpr.safe_of_parse (eq_ok_of_toOption hparse)).constructed
  have hgives : source.GivesMade := by
    refine ⟨?_, ?_⟩
    · rintro name k _ hfound f hf
      cases hfound
      cases hf
      exact .made htype
    · rintro name k _ hfound m hm
      cases hfound
      cases hm
  obtain ⟨hone, hmany, hturns, hsource⟩ :=
    @stubs_are_sanitized files classes session _ hclasses hstore
  have hcontents : ((compileWith files 2 classes).run session).result.toOption.any (fun r =>
      r.classes.flatMap (fun c => c.fields.map Field.render ++ c.methods.map Method.render) =
          ["Map<any, List<void>> items", "List rest", "boolean flag", "void put(List<string> _end)",
            "self run(table _repeat)"].map Text.ofString ∧
        r.classes.flatMap (fun c => c.methods.flatMap Method.modifiers) =
          ["public", "static"].map Text.ofString) = true := by
    decide +kernel
  have hothers : (((compile files classes).run session).result.toOption.isSome &&
      ((compileShared drive 2 classes).run session).result.toOption.isSome &&
      ((source.compile classes).run (session.exclusions, some ())).result.toOption.isSome) =
        true := by
    decide +kernel
  simp only [Bool.and_eq_true] at hothers
  obtain ⟨⟨halone, hshared⟩, hother⟩ := hothers
  obtain ⟨r₁, hr₁⟩ := Option.isSome_iff_exists.1 halone
  obtain ⟨r₂, hr₂, hrendered⟩ := (Option.any_eq_true _ _).1 hcontents
  obtain ⟨r₃, hr₃⟩ := Option.isSome_iff_exists.1 hshared
  obtain ⟨r₄, hr₄⟩ := Option.isSome_iff_exists.1 hother
  have hr₁ := eq_ok_of_toOption hr₁
  have hr₂ := eq_ok_of_toOption hr₂
  have hr₃ := eq_ok_of_toOption hr₃
  have hr₄ := eq_ok_of_toOption hr₄
  obtain ⟨hmembers, hwords⟩ := of_decide_eq_true hrendered
  exact ⟨hclasses, hstore, hpure, hfinished, hgives, ⟨r₁, hr₁, hone r₁ hr₁⟩,
    ⟨r₂, hr₂, hmany 2 r₂ hr₂, hmembers, hwords⟩,
    ⟨r₃, hr₃, hturns 2 schedule r₃ hpure (by decide) hfinished hr₃⟩,
    ⟨r₄, hr₄, hsource source (session.exclusions, some ()) r₄ hgives hr₄⟩⟩

end Batch
end ApiStubs
