import ApiStubs.Proofs.Batch.Canonical
import ApiStubs.Proofs.Batch.Isolation
import ApiStubs.Proofs.Batch.Written
import ApiStubs.Proofs.Documented.Record
import ApiStubs.Proofs.TypeExpr.Nested

/-! Nothing is lost in a record. Every model that a check has made can be written and is read back from
what is written of it. So is the result of every run, from its text as well, if it can be written at
all. -/

namespace ApiStubs

variable {ε α : Type}

/-- The record is written just where `writable` says so, and the check makes the same of it. -/
structure Restored (check : Json → Checked α) (record : Except ε Json) (writable : Prop) (a : α) :
    Prop where
  written : (∃ value, record = .ok value) ↔ writable
  read : ∀ value, record = .ok value → check value = .ok a

theorem restored_of_iff {check : Json → Checked α} {toJson : α → Json} {record : Except ε Json}
    {writable : Prop} {a : α} (hrecord : ∀ value, record = .ok value ↔ writable ∧ value = toJson a)
    (hread : writable → check (toJson a) = .ok a) : Restored check record writable a where
  written := ⟨fun ⟨_, h⟩ => ((hrecord _).1 h).1, fun h => ⟨_, (hrecord _).2 ⟨h, rfl⟩⟩⟩
  read := fun value h => ((hrecord value).1 h).2 ▸ hread ((hrecord value).1 h).1

/-- Whatever the check has made of a value has a record, of which the check makes the same. -/
def Restores (check : Json → Checked α) (record : α → Except ε Json) : Prop :=
  ∀ value a, check value = .ok a → ∃ written, record a = .ok written ∧ check written = .ok a

theorem restores_of_lossless {check : Json → Checked α} {toJson : α → Json}
    {record : α → Except ε Json} (h : Json.Lossless check toJson)
    (hrecord : ∀ value a, check value = .ok a → record a = .ok (toJson a)) :
    Restores check record := fun value a ha => ⟨toJson a, hrecord value a ha, h value a ha⟩

theorem restores_of_within {check : Json → Checked α} {toJson : α → Json}
    {parts : α → List RecordPart} (h : Json.Lossless check toJson)
    (hwithin : ∀ value a, check value = .ok a → Within TypeExpr.memberDepth (parts a)) :
    Restores check fun a => recordOf (parts a) (toJson a) :=
  restores_of_lossless h fun value a ha => recordOf_eq_ok_iff.2 ⟨hwithin value a ha, rfl⟩

theorem TypeExpr.record_of_check {value : Json} {t : TypeExpr} (h : check value = .ok t) :
    t.record = .ok t.toJson := if_pos (safe_of_checkWithin h).2

structure LosslessModels : Prop where
  typeExpr : Restores TypeExpr.check TypeExpr.record
  param : Json.Lossless Param.check Param.toJson
  field : Restores Field.check Field.record
  method : Restores Method.check Method.record
  classStub : Restores ClassStub.check ClassStub.record
  observedType : Json.Lossless ObservedType.check ObservedType.toJson
  observedField : Json.Lossless ObservedField.check ObservedField.toJson
  observedParam : Json.Lossless ObservedParam.check ObservedParam.toJson
  observedMethod : Json.Lossless ObservedMethod.check ObservedMethod.toJson
  observedClass : Json.Lossless ObservedClass.check ObservedClass.toJson
  documentedField : Json.Lossless DocumentedField.check DocumentedField.toJson
  documentedMethod : Json.Lossless DocumentedMethod.check DocumentedMethod.toJson
  skippedClass : Json.Lossless SkippedClass.check SkippedClass.toJson
  compilation : Restores Compilation.check Compilation.record

theorem losslessModels : LosslessModels where
  typeExpr := restores_of_lossless TypeExpr.lossless fun _ _ => TypeExpr.record_of_check
  param := Param.lossless
  field := restores_of_within Field.lossless fun _ _ h => (Field.canonical_of_check h).2
  method := restores_of_within Method.lossless fun _ _ h => (Method.canonical_of_check h).2
  classStub := restores_of_within ClassStub.lossless fun _ _ h => (ClassStub.canonical_of_check h).2
  observedType := ObservedType.lossless
  observedField := ObservedField.lossless
  observedParam := ObservedParam.lossless
  observedMethod := ObservedMethod.lossless
  observedClass := ObservedClass.lossless
  documentedField := DocumentedField.lossless
  documentedMethod := DocumentedMethod.lossless
  skippedClass := SkippedClass.lossless
  compilation := restores_of_within Compilation.lossless fun _ _ => Compilation.within_of_check

open Batch

section

variable [Json.DepthLimit]

/-- The result is read back from its record and from its record for a text, and this is read back
from the text, provided that the number of classes and so deep a record can be read at all. -/
structure Compilation.IsRestored (r : Compilation) : Prop where
  record : Restored check r.record (Within TypeExpr.memberDepth r.parts) r
  textRecord : Restored check r.textRecord (Within TypeExpr.memberDepth r.parts ∧ Whole r.parts) r
  text : (Json.decimal r.total.natAbs).length ≤ Digits.limit →
    recordLevels ≤ Json.DepthLimit.levels →
    ∀ value, r.textRecord = .ok value → Json.readText value.write = .ok value

theorem Compilation.isRestored_of_canonical {r : Compilation} (h : ∀ c ∈ r.classes, c.Canonical) :
    r.IsRestored := by
  have hcheck : Within TypeExpr.memberDepth r.parts → check r.toJson = .ok r := fun hdepth =>
    check_toJson fun c hc => (h c hc).check_toJson
      (hdepth.subset (r.class_parts_subset hc))
  exact ⟨restored_of_iff (fun _ => recordOf_eq_ok_iff) hcheck,
    restored_of_iff (fun _ => textRecordOf_eq_ok_iff) fun hwritable => hcheck hwritable.1,
    fun htotal hlevels _ hvalue => readText_textRecord h htotal hlevels hvalue⟩

/-- Every model that a check makes is restored by its record. So is the result of every run over
accepted classes, whatever the source of documentation, if its documents give canonical members, as
those that pages document are. -/
theorem records_are_lossless :
    LosslessModels ∧
      (∀ {σ κ ε : Type} (source : Source σ κ ε) (I : σ → Prop) (J : κ → Prop),
        source.GivesCanonical I J → ∀ classes before r, (∀ c ∈ classes, c.Accepted) →
          (∀ s, before.2 = some s → I s) →
          ((source.compile classes).run before).result = .ok r → r.IsRestored) ∧
      ∀ files classes session r, (∀ c ∈ classes, c.Accepted) →
        (∀ s, session.store = some s → s.Opened) →
        ((compile files classes).run session).result = .ok r → r.IsRestored := by
  have hsource : ∀ {σ κ ε : Type} (source : Source σ κ ε) (I : σ → Prop) (J : κ → Prop),
      source.GivesCanonical I J → ∀ classes before r, (∀ c ∈ classes, c.Accepted) →
        (∀ s, before.2 = some s → I s) →
        ((source.compile classes).run before).result = .ok r → r.IsRestored := by
    intro σ κ ε source I J hgives classes before r hclasses hstate hr
    have hreadable : ∀ c ∈ classes, c.Readable := fun c hc => (hclasses c hc).readable
    exact Compilation.isRestored_of_canonical (hgives.canonical_of_mem_classes hreadable hstate hr)
  refine ⟨losslessModels, hsource, fun files classes session r hclasses hstore hr => ?_⟩
  exact hsource (PageStore.source files) _ _ (PageStore.givesCanonical files) classes
    (session.exclusions, session.store) r hclasses (fun s hs => (hstore s hs).sound)
    (((PageStore.runsAs_compile classes).result_eq session).trans hr)

end

attribute [local instance] Json.DepthLimit.usual

/-- A page that gives a field types in types and a parameter a reserved word, and a class without a
page; and the same classes with a source that documents every field alike. -/
theorem records_are_lossless_nested :
    let octets := fun s : String => s.toList.map fun ch => UInt8.ofNat ch.toNat
    let docs : Place := Place.working.enter (octets "docs")
    let fields := "\x7b\x22name\x22: \x22items\x22, \x22type\x22: \x22Map< end,List<int>>\x22\x7d"
    let methods := "\x7b\x22name\x22: \x22put\x22, \x22parameters\x22: [" ++
      "\x7b\x22type\x22: \x22List< T>\x22, \x22name\x22: \x22end\x22\x7d]\x7d"
    let box := (docs.enter (octets "Box.json"), Node.file (octets
      ("\x7b\x22fields\x22: [" ++ fields ++ "], \x22methods\x22: [" ++ methods ++ "]\x7d")))
    let files : FileTree := ⟨[(docs, .directory), box]⟩
    let classes : List ObservedClass := [⟨"Box", ["Final", "PUBLIC"],
      [⟨"items", ⟨"Map", ["K", "V"]⟩, ["private"], false⟩],
      [⟨"put", [⟨⟨"List", []⟩, "p0"⟩], ⟨"Any", []⟩, [], false⟩]⟩, ⟨"Box$1", [], [], []⟩]
    let session : Session := ⟨.ofNames ["Out"] false, some (.ofRoot (.ofText "docs"))⟩
    let source : Source Unit Unit Fault := {
      page := fun _ s => (.ok (), s)
      putBack := fun _ _ s => s
      documentName? := fun _ => some "Box"
      field? := fun name k => (.ok (some ⟨name, ⟨"Map", [⟨"K", []⟩, ⟨"V", []⟩]⟩, []⟩), k)
      methodsNamed := fun _ k => (.ok [], k)
      fault := fun fault => fault }
    (∀ c ∈ classes, c.Accepted) ∧ (∀ s, session.store = some s → s.Opened) ∧
      source.GivesCanonical (fun _ => True) (fun _ => True) ∧
      (∃ r value, ((compile files classes).run session).result = .ok r ∧
        r.textRecord = .ok value ∧ Compilation.check value = .ok r ∧
        Json.readText value.write = .ok value ∧
        r.classes.flatMap (fun c => c.fields.map Field.render ++ c.methods.map Method.render) =
          ["Map<end, List<int>> items", "void put(List<T> _end)"].map Text.ofString) ∧
      ∃ r value, ((source.compile classes).run (session.exclusions, some ())).result = .ok r ∧
        r.record = .ok value ∧ Compilation.check value = .ok r := by
  intro octets docs fields methods box files classes session source
  have hclasses : ∀ c ∈ classes, c.Accepted := by
    have hrecords : ∀ c ∈ classes,
        ((ObservedClass.check c.toJson).result "ReflectedClass").toOption = some c := by
      decide +kernel
    exact fun c hc => ObservedClass.accepted_of_record (hrecords c hc)
  have hstore : ∀ s, session.store = some s → s.Opened := by
    rintro s hs
    cases hs
    exact PageStore.opened_ofRoot _
  have htype : TypeExpr.Safe ⟨"Map", [⟨"K", []⟩, ⟨"V", []⟩]⟩ := by
    have hparse : (TypeExpr.parse "Map<K, V>").toOption =
        some ⟨"Map", [⟨"K", []⟩, ⟨"V", []⟩]⟩ := by
      decide +kernel
    exact TypeExpr.safe_of_parse (eq_ok_of_toOption hparse)
  have hgives : source.GivesCanonical (fun _ => True) (fun _ => True) := by
    refine ⟨fun _ _ _ => ⟨trivial, fun _ _ => trivial⟩, fun _ _ _ _ _ => trivial,
      fun name k _ => ⟨trivial, ?_⟩, fun name k _ => ⟨trivial, ?_⟩⟩
    · rintro _ hfound d hd
      cases hfound
      cases hd
      exact ⟨htype, rfl⟩
    · rintro _ hfound d hd
      cases hfound
      cases hd
  obtain ⟨-, hsource, hfiles⟩ := records_are_lossless
  refine ⟨hclasses, hstore, hgives, ?_, ?_⟩
  · have hr : ((compile files classes).run session).result.toOption.isSome = true := by
      decide +kernel
    obtain ⟨r, hr⟩ := Option.isSome_iff_exists.1 hr
    have hcontents : ∀ r ∈ ((compile files classes).run session).result.toOption,
        r.textRecord.toOption.isSome = true ∧
          (Json.decimal r.total.natAbs).length ≤ Digits.limit ∧
          r.classes.flatMap (fun c => c.fields.map Field.render ++ c.methods.map Method.render) =
            ["Map<end, List<int>> items", "void put(List<T> _end)"].map Text.ofString := by
      decide +kernel
    obtain ⟨hvalue, htotal, hmembers⟩ := hcontents r hr
    obtain ⟨value, hvalue⟩ := Option.isSome_iff_exists.1 hvalue
    have hrestored : r.IsRestored := hfiles files classes session r hclasses hstore
      (eq_ok_of_toOption hr)
    exact ⟨r, value, eq_ok_of_toOption hr, eq_ok_of_toOption hvalue,
      hrestored.textRecord.read value (eq_ok_of_toOption hvalue),
      hrestored.text htotal (by decide) value (eq_ok_of_toOption hvalue), hmembers⟩
  · have hrecord : (((source.compile classes).run
        (session.exclusions, some ())).result.toOption.bind fun r => r.record.toOption).isSome =
          true := by
      decide +kernel
    obtain ⟨value, hrecord⟩ := Option.isSome_iff_exists.1 hrecord
    obtain ⟨r, hr, hvalue⟩ := Option.bind_eq_some_iff.1 hrecord
    have hrestored : r.IsRestored := hsource source _ _ hgives classes
      (session.exclusions, some ()) r hclasses (fun _ _ => trivial) (eq_ok_of_toOption hr)
    exact ⟨r, value, eq_ok_of_toOption hr, eq_ok_of_toOption hvalue,
      hrestored.record.read value (eq_ok_of_toOption hvalue)⟩

section Unwritable

theorem wholeClass_field {f : ObservedField} {page : Page} {d : Field} {name : Text}
    (hf : f.Readable) (hgeneric : f.type.isGeneric = true) (hsynthetic : f.synthetic = false)
    (hd : (page.field? f.name).1 = .ok (some d)) (hbase : d.type.sameBase true f.bare.type = true) :
    ((Merge.wholeClass ⟨name, [], [f], []⟩).run (.found page)).result =
      .ok ⟨name, [], [d.withModifiers f.bare.modifiers], []⟩ := by
  have hfields : (Merge.fields ⟨name, [], [f], []⟩).run (.found page) =
      ⟨.ok [d.withModifiers f.bare.modifiers], [], .found (page.field? f.name).2⟩ := by
    rw [Merge.fields, Merge.fieldsFrom, hsynthetic]
    change (Merge.resolveField name f >>= _).run _ = _
    rw [Traced.bind_run_ok _ (Merge.resolveField_documented name hf hgeneric hd hbase)]
    rfl
  rw [Merge.wholeClass, Traced.bind_run_ok _ hfields]
  rfl

def typePage (text : Text) : Page :=
  .ofData "A" [("fields", .arr [.obj [("name", .str "f"), ("type", .str text)]])]

theorem field?_typePage {text : Text} {t : TypeExpr} (h : TypeExpr.parse text = .ok t) :
    ((typePage text).field? "f").1 = .ok (some ⟨"f", t, []⟩) := by
  have hentries : Checked.result "list[FieldEntry]" (Json.checkList DocumentedField.check
      (Page.entries (typePage text).data "fields")) = .ok [⟨"f", text, []⟩] := rfl
  have hfield : DocumentedField.toField ⟨"f", text, []⟩ = .ok ⟨"f", t, []⟩ := by
    rw [DocumentedField.toField, h]
    rfl
  have hread : Page.readFields (typePage text).data = .ok [⟨"f", t, []⟩] := by
    rw [Page.readFields, hentries]
    change List.mapM DocumentedField.toField _ = _
    rw [List.mapM_cons, hfield]
    rfl
  have hfields : ((typePage text).fields).1 = .ok [⟨"f", t, []⟩] := by
    rw [Page.fields]
    simp only [hread]
    rfl
  rw [Page.field?]
  simp only [hfields]
  rfl

def givesTypePage (text : Text) : Except PageFault Lookup → Bool
  | .ok (.found ⟨name, [(part, .arr [.obj [(k, .str n), (k', .str t)]])], none, none⟩) =>
    decide (name = "A" ∧ part = "fields" ∧ k = "name" ∧ n = "f" ∧ k' = "type" ∧ t = text)
  | _ => false

theorem answer_eq_typePage {answer : Except PageFault Lookup} {text : Text}
    (h : givesTypePage text answer = true) : answer = .ok (.found (typePage text)) := by
  rw [givesTypePage.eq_def] at h
  split at h
  · obtain ⟨rfl, rfl, rfl, rfl, rfl, rfl⟩ := of_decide_eq_true h
    rfl
  · cases h

theorem mergeVerdict_typePage {c : ObservedClass} (hc : c.Readable) {text : Text} {t : TypeExpr}
    (hshape : c = ⟨"A", [], [⟨"f", ⟨"A", ["K"]⟩, [], false⟩], []⟩)
    (ht : TypeExpr.parse text = .ok t) (hname : t.name = "A") :
    (mergeVerdict c (.found (typePage text))).1 = .ok (.merged ⟨"A", [], [⟨"f", t, []⟩], []⟩) := by
  subst hshape
  exact mergeVerdict_eq_merged_iff.2 (wholeClass_field (hc.fields _ List.mem_cons_self) rfl rfl
    (field?_typePage ht) (beq_iff_eq.2 hname))

theorem exists_unwritable [Json.DepthLimit] {files : FileTree} {c : ObservedClass}
    {session : Session} {stub : ClassStub} {f : Field} (hc : c.Accepted)
    (hpure : session.exclusions.isPure = true)
    (hstore : ∀ s, session.store = some s → s.Opened)
    (hverdict : (visitVerdict files session.store (session.exclusions.lists c.name) c).1 =
      .ok (.merged stub)) (hf : f ∈ stub.fields) (hdeep : TypeExpr.memberDepth < f.type.depth) :
    ∃ r, ((compile files [c]).run session).result = .ok r ∧ ∀ value, r.record ≠ .ok value := by
  obtain ⟨r, hr, hgathers⟩ := compile_alone hc hpure hstore hverdict
  refine ⟨r, hr, fun value hvalue => ?_⟩
  have hstub : stub ∈ r.classes := by
    rw [hgathers.classes]
    exact List.mem_cons_self
  have hstubParts := (recordOf_eq_ok_iff.1 hvalue).1.subset (r.class_parts_subset hstub)
  have hfieldParts := hstubParts.subset (stub.field_parts_subset hf)
  exact absurd (hfieldParts f.type (List.mem_cons_of_mem _ List.mem_cons_self))
    (Nat.not_le_of_lt hdeep)

/-- A run over a class with half of a surrogate pair for a modifier, whose result is no text, and a
run over a class whose page gives a field too many types in each other, whose result is no
record. -/
theorem records_can_be_unwritable :
    let octets := fun text : Text => text.map fun c => UInt8.ofNat c.toNat
    let docs : Place := Place.working.enter (octets "docs")
    let page : Text := "\x7b\x22fields\x22: [\x7b\x22name\x22: \x22f\x22, \x22type\x22: \x22" ++
      TypeExpr.nestedText 299 "\x22\x7d]\x7d"
    let files : FileTree :=
      ⟨[(docs, .directory), (docs.enter (octets "A.json"), .file (octets page))]⟩
    let torn : ObservedClass := ⟨"B", [[.surrogate 0]], [], []⟩
    let deep : ObservedClass := ⟨"A", [], [⟨"f", ⟨"A", ["K"]⟩, [], false⟩], []⟩
    let session : Session := ⟨.ofNames [] false, some (.ofRoot (.ofText "docs"))⟩
    (torn.Accepted ∧ ∃ r, ((compile files [torn]).run session).result = .ok r ∧
      ∀ value, r.textRecord ≠ .ok value) ∧
    deep.Accepted ∧ ∃ r, ((compile files [deep]).run session).result = .ok r ∧
      ∀ value, r.record ≠ .ok value := by
  intro octets docs page files torn deep session
  have htorn : torn.Accepted := ObservedClass.accepted_of_record (by decide +kernel)
  have hdeep : deep.Accepted := ObservedClass.accepted_of_record (by decide +kernel)
  have hstore : ∀ s, session.store = some s → s.Opened := by
    rintro s hs
    cases hs
    exact PageStore.opened_ofRoot _
  refine ⟨⟨htorn, ?_⟩, hdeep, ?_⟩
  · have hr : ((compile files [torn]).run session).result.toOption.isSome = true := by
      decide +kernel
    have hfault : ∀ r ∈ ((compile files [torn]).run session).result.toOption,
        r.textRecord.toOption.isSome = false := by
      decide +kernel
    obtain ⟨r, hr⟩ := Option.isSome_iff_exists.1 hr
    refine ⟨r, eq_ok_of_toOption hr, fun value hvalue => ?_⟩
    have hnone := hfault r hr
    rw [hvalue] at hnone
    cases hnone
  · have hpath : pagePath? deep.name = some (Text.ofString "A.html") := by decide +kernel
    have hlists : session.exclusions.lists deep.name = false := by decide +kernel
    have hanswer : (PageStore.ofRoot (.ofText "docs")).answer files "A.html" =
        .ok (.found (typePage (TypeExpr.nestedText 299 []))) := by
      refine answer_eq_typePage ?_
      decide +kernel
    have hmerged := mergeVerdict_typePage hdeep.readable rfl (TypeExpr.parse_nestedText 299)
      (TypeExpr.name_nested 299)
    refine exists_unwritable hdeep rfl hstore
      (hlists ▸ visitVerdict_of_answer hpath hanswer hmerged) List.mem_cons_self ?_
    rw [TypeExpr.depth_nested]
    decide

end Unwritable

end ApiStubs
