import ApiStubs.Merge.Class
import ApiStubs.Proofs.Merge.Fields
import ApiStubs.Proofs.Merge.Methods

/-! Whole merged classes. Merging never makes a class that its own check refuses, and a page can only
add detail to the members that the running program shows. -/

namespace ApiStubs

namespace ClassStub

theorem hasRepeats_eq_false_iff {α : Type} [DecidableEq α] {items : List α} :
    hasRepeats items = false ↔ items.Nodup := by
  induction items with
  | nil => simp [hasRepeats]
  | cons a rest ih => simp [hasRepeats, ih]

theorem checkUnique_eq_ok_iff {input : Json} {c d : ClassStub} :
    c.checkUnique input = .ok d ↔
      (c.fields.map Field.name).Nodup ∧ (c.methods.map (Method.signature true)).Nodup ∧ d = c := by
  rw [checkUnique, ← hasRepeats_eq_false_iff, ← hasRepeats_eq_false_iff]
  split_ifs with hfields hmethods
  · simp [hfields, Checked.refuse]
  · simp [hmethods, Checked.refuse]
  · simp [hfields, hmethods, eq_comm]

theorem make_eq_ok_iff {name : Text} {modifiers : List Text} {fields : List Field}
    {methods : List Method} {stub : ClassStub} :
    make name modifiers fields methods = .ok stub ↔
      (fields.map Field.name).Nodup ∧ (methods.map (Method.signature true)).Nodup ∧
        stub = ⟨name, Modifiers.normalize modifiers, fields, methods⟩ := by
  rw [make, Checked.result_eq_ok_iff, checkUnique_eq_ok_iff]

theorem make_eq_ok {name : Text} {modifiers : List Text} {fields : List Field}
    {methods : List Method} (hfields : (fields.map Field.name).Nodup)
    (hmethods : (methods.map (Method.signature true)).Nodup) :
    make name modifiers fields methods =
      .ok ⟨name, Modifiers.normalize modifiers, fields, methods⟩ :=
  make_eq_ok_iff.2 ⟨hfields, hmethods, rfl⟩

end ClassStub

namespace Merge

open Merging (Reads)

variable {source : Lookup} {c : ObservedClass} {observed : List Method}

structure StubOf (source : Lookup) (c : ObservedClass) (observed : List Method)
    (stub : ClassStub) : Prop where
  name : stub.name = c.name
  modifiers : stub.modifiers = Modifiers.normalize c.modifiers
  fields : FieldsOf c stub.fields
  methods : Chosen source [] observed stub.methods

theorem wholeClass_reads (hsource : source.Sound) (hc : c.Readable)
    (hobserved : List.Forall₂ Describes (countedMethods c.methods) observed) :
    Reads source (StubOf source c observed) (wholeClass c) :=
  .bind (fields_reads hc) fun _ hfields =>
    .bind (methodsFrom_reads c.name [] hsource hobserved) fun _ hmethods =>
      .made (ClassStub.make_eq_ok hfields.nodup hmethods.nodup) ⟨rfl, rfl, hfields, hmethods⟩

theorem StubOf.erasedSignatures {stub : ClassStub} (h : StubOf source c observed stub)
    (hsource : source.Sound)
    (hobserved : List.Forall₂ Describes (countedMethods c.methods) observed) :
    stub.methods.mapM Method.erasedSignature =
      .ok (stub.methods.map fun m => Method.erase (m.signature true)) := by
  have hconstructed : ∀ o ∈ observed, o.Constructed := by
    intro o ho
    obtain ⟨m, -, hdescribes⟩ := exists_of_mem_forall₂ hobserved ho
    exact hdescribes.constructed
  exact mapM_eq_ok_map fun m hm =>
    (h.methods.constructed hsource hconstructed m hm).erasedSignature_eq

end Merge

/-- No type of a parameter has arguments. -/
def ObservedClass.Unapplied (c : ObservedClass) : Prop :=
  ∀ m ∈ c.methods, m.synthetic = false → ∀ p ∈ m.params, ∀ t,
    TypeExpr.parse p.type.name = .ok t → t.arguments = []

theorem Merge.Describes.erase_signature {m : ObservedMethod} {o : Method} (h : Describes m o)
    (hplain : ∀ p ∈ m.params, ∀ t, TypeExpr.parse p.type.name = .ok t → t.arguments = []) :
    Method.erase (o.signature true) = o.signature true := by
  have hparams : ∀ p ∈ o.params, TypeExpr.baseOfText p.typeText = p.typeText := by
    obtain ⟨params, hparams, hmade⟩ := bind_eq_ok_iff.1 h.made
    obtain ⟨returns, -, hreturn⟩ := bind_eq_ok_iff.1 hmade
    cases hreturn
    intro p hp
    obtain ⟨q, hq, hparam⟩ := exists_of_mem_forall₂ (mapM_eq_ok_iff.1 hparams) hp
    obtain ⟨t, ht, rfl⟩ := Param.make_eq_ok_iff.1 hparam
    rw [TypeExpr.baseOfText_eq (TypeExpr.parse_render ht)]
    have hnil := hplain q hq t ht
    cases t with
    | mk name arguments =>
      cases hnil
      simp [TypeExpr.render_eq]
  rw [Method.erase_signature]
  refine Prod.ext rfl ?_
  exact List.map_congr_left hparams

/-- A page changes neither the name nor the modifiers of a class, nor any field but in the arguments
of its type, nor which erased signatures its methods have or how these follow each other. Where no
type of a parameter has arguments, there is one method of each erased signature. -/
theorem documentation_only_adds_detail {c : ObservedClass} {page : Page} {stub : ClassStub}
    (hc : c.Accepted) (hpage : page.Opened)
    (hstub : ((Merge.wholeClass c).run (.found page)).result = .ok stub) (reason : Text) :
    ∃ bare, ((Merge.wholeClass c).run (.missing reason)).result = .ok bare ∧
      stub.name = bare.name ∧ stub.modifiers = bare.modifiers ∧
      (∃ fields, stub.fields.mapM Field.erased = .ok fields ∧
        bare.fields.mapM Field.erased = .ok fields) ∧
      ∃ documented undocumented observed,
        stub.methods.mapM Method.erasedSignature = .ok documented ∧
        bare.methods.mapM Method.erasedSignature = .ok undocumented ∧
        (c.methods.filter fun m => !m.synthetic).mapM ObservedMethod.erasedSignature =
          .ok observed ∧
        documented.eraseDups = observed.eraseDups ∧ undocumented.eraseDups = observed.eraseDups ∧
        (c.Unapplied → documented = observed.eraseDups) := by
  have hreadable := hc.readable
  obtain ⟨observed, hobserved⟩ := Merge.exists_observed hreadable
  have hsound : (Lookup.found page).Sound := hpage.sound
  have hfresh : (Lookup.found page).fresh.Sound := Lookup.sound_fresh _
  have hnone : (Lookup.missing reason).Sound := trivial
  have hof := (Merge.wholeClass_reads hfresh hreadable hobserved).of_ok hsound.shows hstub
  obtain ⟨bare, hrun, hbare⟩ :=
    (Merge.wholeClass_reads hnone hreadable hobserved).exists_ok
  refine ⟨bare, hrun, hof.name.trans hbare.name.symm, hof.modifiers.trans hbare.modifiers.symm,
    ⟨_, hof.fields.erased_eq hreadable, hbare.fields.erased_eq hreadable⟩, _, _, _,
    hof.erasedSignatures hfresh hobserved, hbare.erasedSignatures hnone hobserved,
    Merge.erasedSignatures_of_describes hobserved, hof.methods.eraseDups_erased,
    hbare.methods.eraseDups_erased, fun hplain => hof.methods.erased_eq ?_⟩
  intro o ho
  obtain ⟨m, hm, hdescribes⟩ := exists_of_mem_forall₂ hobserved ho
  obtain ⟨hmem, hsynthetic⟩ := List.mem_filter.1 hm
  exact hdescribes.erase_signature (hplain m hmem (by simpa using hsynthetic))

/-- Two overloads that differ only in what they return, and a synthetic one; the page gives the
arguments of the types. -/
theorem documentation_only_adds_detail_overloads :
    let list : ObservedType := ⟨"java.util.List", ["E"]⟩
    let c : ObservedClass := ⟨"Box", ["PUBLIC"], [⟨"items", list, ["private"], false⟩],
      [⟨"put", [⟨list, "p0"⟩], ⟨"void", []⟩, ["public"], false⟩,
        ⟨"put", [⟨list, "p1"⟩], ⟨"boolean", []⟩, [], false⟩, ⟨"put", [], ⟨"void", []⟩, [], true⟩]⟩
    let page : Page := .ofData "Box"
      [("fields", .arr [.obj [("name", .str "items"), ("type", .str "java.util.List<T>")]]),
        ("methods", .arr [.obj [("name", .str "put"), ("parameters",
          .arr [.obj [("type", .str "java.util.List< T>"), ("name", .str "end")]])]])]
    let stub : ClassStub := ⟨"Box", ["public"],
      [⟨"items", ⟨"java.util.List", [⟨"T", []⟩]⟩, ["private"]⟩],
      [⟨"put", [⟨"java.util.List<T>", "_end"⟩], ⟨"void", []⟩, []⟩]⟩
    c.Accepted ∧ page.Opened ∧ c.Unapplied ∧
      ((Merge.wholeClass c).run (.found page)).result = .ok stub ∧
      ∃ bare, ((Merge.wholeClass c).run (.missing "")).result = .ok bare ∧
        stub.name = bare.name ∧ stub.modifiers = bare.modifiers ∧
        ∃ signatures, stub.methods.mapM Method.erasedSignature = .ok signatures.eraseDups ∧
          (c.methods.filter fun m => !m.synthetic).mapM ObservedMethod.erasedSignature =
            .ok signatures := by
  intro list c page stub
  have hc : c.Accepted := ObservedClass.accepted_of_record (by decide +kernel)
  have hpage : page.Opened := .ofData _ _
  have hplain : c.Unapplied := by
    have hlist : TypeExpr.parse list.name = .ok ⟨"java.util.List", []⟩ :=
      eq_ok_of_toOption (by decide +kernel)
    have htype : ∀ m ∈ c.methods, ∀ p ∈ m.params, p.type = list := by decide +kernel
    intro m hm _ p hp t ht
    rw [htype m hm p hp, hlist] at ht
    cases ht
    rfl
  have hstub : ((Merge.wholeClass c).run (.found page)).result = .ok stub :=
    eq_ok_of_toOption (by decide +kernel)
  obtain ⟨bare, hbare, hname, hmodifiers, -, signatures, -, observed, hsignatures, -, hobserved, -,
    -, hone⟩ := documentation_only_adds_detail hc hpage hstub ""
  refine ⟨hc, hpage, hplain, hstub, bare, hbare, hname, hmodifiers, observed, ?_, hobserved⟩
  rw [hsignatures, hone hplain]

end ApiStubs
