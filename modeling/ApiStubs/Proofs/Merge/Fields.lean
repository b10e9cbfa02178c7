import ApiStubs.Merge.Fields
import ApiStubs.Proofs.Merge.Reading
import ApiStubs.Proofs.Observed.Readable

/-! Fields of a merged class. Documentation can only put arguments on their types. -/

namespace ApiStubs

def Field.erased (f : Field) : Except Fault (Text × TypeExpr × List Text) := do
  return (f.name, ← f.type.erased, f.modifiers)

theorem Page.name_of_field? {p : Page} {name : Text} {f : Field}
    (h : (p.field? name).1 = .ok (some f)) : f.name = name := by
  rw [Page.answer_field?] at h
  cases hfields : p.fields.1 with
  | error fault => rw [hfields] at h; cases h
  | ok found =>
    rw [hfields] at h
    have hfind : found.find? (·.name == name) = some f := Except.ok.inj h
    exact beq_iff_eq.1 (List.find?_some (p := fun f : Field => f.name == name) hfind)

namespace Merge

open Merging (Reads Answers)

variable {source : Lookup}

structure Keeps (f : ObservedField) (r : Field) : Prop where
  name : r.name = f.name
  base : r.type.name = Lua.typeName f.type.name
  modifiers : r.modifiers = Modifiers.normalize f.modifiers

theorem keeps_bare (f : ObservedField) : Keeps f f.bare := ⟨rfl, rfl, rfl⟩

theorem Keeps.type_erased {f : ObservedField} {r : Field} (h : Keeps f r) (hf : f.Readable) :
    r.type.erased = .ok ⟨Lua.typeName f.type.name, []⟩ := by
  have hbare := ObservedType.Readable.toType_eq hf
  rw [ObservedType.toType, TypeExpr.make_eq_ok_iff] at hbare
  obtain ⟨htorn, hne, -⟩ := hbare
  rw [TypeExpr.erased, h.base, TypeExpr.make_eq_ok_iff, Lua.typeName_typeName]
  exact ⟨htorn, hne, rfl⟩

theorem Keeps.erased_eq {f : ObservedField} {r : Field} (h : Keeps f r) (hf : f.Readable) :
    r.erased = .ok
      (f.name, ⟨Lua.typeName f.type.name, []⟩, Modifiers.normalize f.modifiers) := by
  rw [Field.erased, h.type_erased hf, h.name, h.modifiers]
  rfl

theorem placeholder_eq {f : ObservedField} (h : f.Readable) : placeholder f = .ok f.bare :=
  bind_eq_ok_iff.2 ⟨_, ObservedType.Readable.toType_eq h,
    bind_eq_ok_iff.2 ⟨_, (keeps_bare f).type_erased h, rfl⟩⟩

theorem chooseField_reads {f : ObservedField} (className : Text)
    {answer : Option (Text × Option Field)}
    (h : Answers (fun p => p.field? f.name) source answer) :
    Reads source (Keeps f) (chooseField className f.bare answer) := by
  rcases answer with - | ⟨page, - | documented⟩
  · exact .pure (keeps_bare f)
  · exact .bind (.report _) fun _ _ => .pure (keeps_bare f)
  · rw [chooseField]
    split_ifs with hbase
    · have hname : documented.name = f.name := by
        cases source with
        | missing reason => cases h
        | found p =>
          obtain ⟨found, hfound, hanswer⟩ := h
          cases hanswer
          exact Page.name_of_field? hfound
      have hsame : documented.type.name = Lua.typeName f.type.name := beq_iff_eq.1 hbase
      exact .pure ⟨hname, hsame, Modifiers.normalize_normalize f.modifiers⟩
    · exact .bind (.report _) fun _ _ => .pure (keeps_bare f)

theorem resolveField_reads {f : ObservedField} (className : Text) (h : f.Readable) :
    Reads source (Keeps f) (resolveField className f) := by
  rw [resolveField]
  split_ifs with hgeneric
  · exact .bind (.made (P := (· = f.bare)) (placeholder_eq h) rfl) fun expected hexpected =>
      .bind (.ask (Page.steady_field? f.name)) fun answer hanswer =>
        hexpected ▸ chooseField_reads className hanswer
  · exact .made h.toField_eq (keeps_bare f)

theorem resolveField_documented {f : ObservedField} {page : Page} {d : Field} (className : Text)
    (hf : f.Readable) (hgeneric : f.type.isGeneric = true)
    (hd : (page.field? f.name).1 = .ok (some d)) (hbase : d.type.sameBase true f.bare.type = true) :
    (resolveField className f).run (.found page) =
      ⟨.ok (d.withModifiers f.bare.modifiers), [], .found (page.field? f.name).2⟩ := by
  have hask : (Merging.ask fun p => p.field? f.name).run (.found page) =
      ⟨.ok (some (page.name, some d)), [], .found (page.field? f.name).2⟩ := by
    change Trace.mk (((page.field? f.name).1.map _).mapError _) _ _ = _
    rw [hd]
    rfl
  have hmade : (Merging.made (placeholder f)).run (.found page) =
      ⟨.ok f.bare, [], .found page⟩ := by
    rw [placeholder_eq hf]
    rfl
  rw [resolveField, if_pos hgeneric, Traced.bind_run_ok _ hmade, Traced.bind_run_ok _ hask]
  simp only [chooseField, hbase, if_true]
  rfl

def countedFields (taken : List Text) : List ObservedField → List ObservedField
  | [] => []
  | f :: rest =>
      if f.synthetic || taken.contains f.name then countedFields taken rest
      else f :: countedFields (f.name :: taken) rest

theorem mem_of_mem_countedFields {taken : List Text} {fields : List ObservedField}
    {f : ObservedField} (h : f ∈ countedFields taken fields) :
    f ∈ fields ∧ f.name ∉ taken := by
  induction fields generalizing taken with
  | nil => cases h
  | cons g rest ih =>
    rw [countedFields] at h
    split_ifs at h with hskip
    · obtain ⟨hmem, htaken⟩ := ih h
      exact ⟨List.mem_cons_of_mem _ hmem, htaken⟩
    · rcases List.mem_cons.1 h with rfl | h
      · refine ⟨List.mem_cons_self, ?_⟩
        simpa using fun hmem => hskip (by simp [hmem])
      · obtain ⟨hmem, htaken⟩ := ih h
        exact ⟨List.mem_cons_of_mem _ hmem, fun htake => htaken (List.mem_cons_of_mem _ htake)⟩

theorem nodup_countedFields (taken : List Text) (fields : List ObservedField) :
    ((countedFields taken fields).map ObservedField.name).Nodup := by
  induction fields generalizing taken with
  | nil => exact List.nodup_nil
  | cons f rest ih =>
    rw [countedFields]
    split_ifs
    · exact ih taken
    · rw [List.map_cons, List.nodup_cons]
      refine ⟨?_, ih _⟩
      rintro hmem
      obtain ⟨g, hg, hname⟩ := List.mem_map.1 hmem
      obtain ⟨-, hfresh⟩ := mem_of_mem_countedFields hg
      exact hfresh (hname ▸ List.mem_cons_self)

theorem fieldsFrom_reads {fields : List ObservedField} (className : Text) (taken : List Text)
    (h : ∀ f ∈ fields, f.Readable) :
    Reads source (List.Forall₂ Keeps (countedFields taken fields))
      (fieldsFrom className taken fields) := by
  induction fields generalizing taken with
  | nil => exact .pure .nil
  | cons f rest ih =>
    have hrest := fun taken => ih taken fun g hg => h g (List.mem_cons_of_mem _ hg)
    rw [fieldsFrom, countedFields]
    split_ifs
    · exact hrest taken
    · exact .bind (resolveField_reads className (h f List.mem_cons_self)) fun r hr =>
        .bind (hrest _) fun rs hrs => .pure (.cons hr hrs)

def FieldsOf (c : ObservedClass) (fields : List Field) : Prop :=
  List.Forall₂ Keeps (countedFields [] c.fields) fields

theorem fields_reads {c : ObservedClass} (h : c.Readable) :
    Reads source (FieldsOf c) (fields c) := fieldsFrom_reads c.name [] h.fields

variable {c : ObservedClass} {fields : List Field}

theorem FieldsOf.erased_eq (h : FieldsOf c fields) (hc : c.Readable) :
    fields.mapM Field.erased = .ok ((countedFields [] c.fields).map fun f =>
      (f.name, ⟨Lua.typeName f.type.name, []⟩, Modifiers.normalize f.modifiers)) := by
  have hreadable : ∀ f ∈ countedFields [] c.fields, f.Readable := fun f hf =>
    hc.fields f (mem_of_mem_countedFields hf).1
  rw [mapM_eq_ok_iff, List.forall₂_map_right_iff]
  refine List.Forall₂.flip ?_
  refine (List.forall₂_and_left _ _).2 ⟨hreadable, h⟩ |>.imp ?_
  rintro f r ⟨hf, hkeeps⟩
  exact hkeeps.erased_eq hf

theorem FieldsOf.nodup (h : FieldsOf c fields) : (fields.map Field.name).Nodup := by
  have hnames : fields.map Field.name = (countedFields [] c.fields).map ObservedField.name := by
    rw [← List.forall₂_eq_eq_eq, List.forall₂_map_left_iff, List.forall₂_map_right_iff]
    exact (h.imp fun _ _ hkeeps => hkeeps.name).flip
  exact hnames ▸ nodup_countedFields [] c.fields

end Merge
end ApiStubs
