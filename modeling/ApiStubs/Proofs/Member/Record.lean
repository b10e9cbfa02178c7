import ApiStubs.Proofs.Merge.Class
import ApiStubs.Proofs.TypeExpr.Safe
import ApiStubs.Proofs.TypeExpr.Written
import ApiStubs.Proofs.Validation.Lossless

/-! Records of types, members and merged classes. Whatever is canonical is read back from its
record, provided that no type in it lies too deep, and validation makes nothing but what is
canonical. -/

namespace ApiStubs

theorem TypeExpr.lossless : Json.Lossless check toJson := by
  intro value t h
  obtain ⟨hsafe, hdepth⟩ := safe_of_checkWithin h
  exact hsafe.checkWithin_toJson hdepth

theorem Param.Constructed.check_toJson {p : Param} (h : p.Constructed) :
    check p.toJson = .ok p := by
  obtain ⟨text, t, name, ht, rfl⟩ := h.exists_parse
  have htype : checkTypeText (.str t.render) = .ok t.render :=
    checkTypeText_eq_ok_iff.2 ⟨t, TypeExpr.parse_render ht, rfl⟩
  have hname : (pure (Lua.identifier (Json.str (Lua.identifier name)).display) : Checked Text) =
      .ok (Lua.identifier name) :=
    Checked.pure_eq_ok_iff.2 (Lua.identifier_identifier name)
  exact Checked.seq_eq_ok (Checked.map_eq_ok (Json.checkMember_eq_ok_of_lookup rfl htype))
    (Json.checkMemberOr_eq_ok_of_lookup rfl hname)

theorem Param.lossless : Json.Lossless check toJson := fun _ _ h =>
  (Constructed.checked h).check_toJson

structure Field.Canonical (f : Field) : Prop where
  type : f.type.Safe
  modifiers : Modifiers.normalize f.modifiers = f.modifiers

namespace Field

theorem Canonical.check_toJson {f : Field} (h : f.Canonical)
    (hdepth : Within TypeExpr.memberDepth f.parts) : check f.toJson = .ok f := by
  have htype : TypeExpr.checkOfMember f.type.toJson = .ok f.type :=
    h.type.checkWithin_toJson (hdepth f.type (by simp [parts]))
  have hmodifiers : Modifiers.check (Json.strings f.modifiers) = .ok f.modifiers := by
    rw [Modifiers.check_strings, h.modifiers]
  cases f
  exact Checked.seq_eq_ok (Checked.seq_eq_ok
    (Checked.map_eq_ok (Json.checkMember_eq_ok_of_lookup rfl rfl))
    (Json.checkMember_eq_ok_of_lookup rfl htype))
    (Json.checkMemberOr_eq_ok_of_lookup rfl hmodifiers)

theorem canonical_of_check {value : Json} {f : Field} (h : check value = .ok f) :
    f.Canonical ∧ Within TypeExpr.memberDepth f.parts := by
  obtain ⟨members, hmembers⟩ := Json.checkModel_eq_ok h
  obtain ⟨g₁, modifiers, hg₁, hmodifiers, rfl⟩ := Checked.seq_eq_ok_iff.1 hmembers
  obtain ⟨g₂, type, hg₂, htype, rfl⟩ := Checked.seq_eq_ok_iff.1 hg₁
  obtain ⟨name, -, rfl⟩ := Checked.map_eq_ok_iff.1 hg₂
  obtain ⟨record, hrecord⟩ := Json.checkMember_eq_ok htype
  obtain ⟨hsafe, hdepth⟩ := TypeExpr.safe_of_checkWithin hrecord
  refine ⟨⟨hsafe, Modifiers.canonical_of_memberOr hmodifiers⟩, fun t ht => ?_⟩
  have ht : t = type := by simpa [parts, RecordPart.texts] using ht
  exact ht ▸ hdepth

theorem lossless : Json.Lossless check toJson := fun _ _ h =>
  (canonical_of_check h).1.check_toJson (canonical_of_check h).2

end Field

structure Method.Canonical (m : Method) : Prop where
  params : m.Constructed
  returns : m.returns.Safe
  modifiers : Modifiers.normalize m.modifiers = m.modifiers

namespace Method

theorem Canonical.check_toJson {m : Method} (h : m.Canonical)
    (hdepth : Within TypeExpr.memberDepth m.parts) : check m.toJson = .ok m := by
  have hparams : Json.checkTuple Param.check (.arr (m.params.map Param.toJson)) = .ok m.params :=
    Json.checkTuple_map fun p hp => (h.params p hp).check_toJson
  have hreturns : TypeExpr.checkOfMember m.returns.toJson = .ok m.returns :=
    h.returns.checkWithin_toJson (hdepth m.returns (by simp [parts]))
  have hmodifiers : Modifiers.check (Json.strings m.modifiers) = .ok m.modifiers := by
    rw [Modifiers.check_strings, h.modifiers]
  cases m
  exact Checked.seq_eq_ok (Checked.seq_eq_ok (Checked.seq_eq_ok
    (Checked.map_eq_ok (Json.checkMember_eq_ok_of_lookup rfl rfl))
    (Json.checkMemberOr_eq_ok_of_lookup rfl hparams))
    (Json.checkMemberOr_eq_ok_of_lookup rfl hreturns))
    (Json.checkMemberOr_eq_ok_of_lookup rfl hmodifiers)

theorem safe_noValue : noValue.Safe :=
  .node (by decide +kernel) (by decide) (by decide) nofun

theorem canonical_of_check {value : Json} {m : Method} (h : check value = .ok m) :
    m.Canonical ∧ Within TypeExpr.memberDepth m.parts := by
  obtain ⟨members, hmembers⟩ := Json.checkModel_eq_ok h
  obtain ⟨g₁, modifiers, hg₁, hmodifiers, rfl⟩ := Checked.seq_eq_ok_iff.1 hmembers
  obtain ⟨g₂, returns, hg₂, hreturns, rfl⟩ := Checked.seq_eq_ok_iff.1 hg₁
  obtain ⟨g₃, params, hg₃, hparams, rfl⟩ := Checked.seq_eq_ok_iff.1 hg₂
  obtain ⟨name, -, rfl⟩ := Checked.map_eq_ok_iff.1 hg₃
  have hreturn : returns.Safe ∧ returns.depth ≤ TypeExpr.memberDepth := by
    rcases Json.checkMemberOr_eq_ok hreturns with rfl | ⟨record, hrecord⟩
    · exact ⟨safe_noValue, by decide⟩
    · exact TypeExpr.safe_of_checkWithin hrecord
  refine ⟨⟨fun p hp => ?_, hreturn.1, Modifiers.canonical_of_memberOr hmodifiers⟩, fun t ht => ?_⟩
  · obtain ⟨item, hitem⟩ := Json.exists_of_mem_tupleOr hparams hp
    exact .checked hitem
  · have ht : t = returns := by simpa [parts, RecordPart.texts, Param.parts] using ht
    exact ht ▸ hreturn.2

theorem lossless : Json.Lossless check toJson := fun _ _ h =>
  (canonical_of_check h).1.check_toJson (canonical_of_check h).2

end Method

structure ClassStub.Canonical (c : ClassStub) : Prop where
  modifiers : Modifiers.normalize c.modifiers = c.modifiers
  fields : ∀ f ∈ c.fields, f.Canonical
  methods : ∀ m ∈ c.methods, m.Canonical
  fieldNames : (c.fields.map Field.name).Nodup
  signatures : (c.methods.map (Method.signature true)).Nodup

namespace ClassStub

theorem field_parts_subset (c : ClassStub) {f : Field} (hf : f ∈ c.fields) : f.parts ⊆ c.parts := by
  intro part hpart
  simp only [parts, List.mem_append, List.mem_flatMap]
  exact .inl (.inr ⟨f, hf, hpart⟩)

theorem method_parts_subset (c : ClassStub) {m : Method} (hm : m ∈ c.methods) :
    m.parts ⊆ c.parts := by
  intro part hpart
  simp only [parts, List.mem_append, List.mem_flatMap]
  exact .inr ⟨m, hm, hpart⟩

theorem within_parts {c : ClassStub} {levels : Nat}
    (hfields : ∀ f ∈ c.fields, Within levels f.parts)
    (hmethods : ∀ m ∈ c.methods, Within levels m.parts) : Within levels c.parts := by
  intro t ht
  simp only [parts, RecordPart.texts, List.cons_append, List.append_assoc, List.mem_cons,
    List.mem_append, List.mem_map, List.mem_flatMap, reduceCtorEq, and_false, exists_false,
    false_or] at ht
  rcases ht with ⟨f, hf, ht⟩ | ⟨m, hm, ht⟩
  · exact hfields f hf t ht
  · exact hmethods m hm t ht

theorem Canonical.check_toJson {c : ClassStub} (h : c.Canonical)
    (hdepth : Within TypeExpr.memberDepth c.parts) : check c.toJson = .ok c := by
  have hmodifiers : Modifiers.check (Json.strings c.modifiers) = .ok c.modifiers := by
    rw [Modifiers.check_strings, h.modifiers]
  have hfields : Json.checkTuple Field.check (.arr (c.fields.map Field.toJson)) = .ok c.fields :=
    Json.checkTuple_map fun f hf =>
      (h.fields f hf).check_toJson (hdepth.subset (c.field_parts_subset hf))
  have hmethods : Json.checkTuple Method.check (.arr (c.methods.map Method.toJson)) =
      .ok c.methods :=
    Json.checkTuple_map fun m hm =>
      (h.methods m hm).check_toJson (hdepth.subset (c.method_parts_subset hm))
  refine Checked.andThen_eq_ok_iff.2 ⟨c, ?_,
    checkUnique_eq_ok_iff.2 ⟨h.fieldNames, h.signatures, rfl⟩⟩
  cases c
  exact Checked.seq_eq_ok (Checked.seq_eq_ok (Checked.seq_eq_ok
    (Checked.map_eq_ok (Json.checkMember_eq_ok_of_lookup rfl rfl))
    (Json.checkMemberOr_eq_ok_of_lookup rfl hmodifiers))
    (Json.checkMemberOr_eq_ok_of_lookup rfl hfields))
    (Json.checkMemberOr_eq_ok_of_lookup rfl hmethods)

theorem canonical_of_check {value : Json} {c : ClassStub} (h : check value = .ok c) :
    c.Canonical ∧ Within TypeExpr.memberDepth c.parts := by
  obtain ⟨members, hmembers⟩ := Json.checkModel_eq_ok h
  obtain ⟨d, hd, hunique⟩ := Checked.andThen_eq_ok_iff.1 hmembers
  obtain ⟨hnames, hsignatures, rfl⟩ := checkUnique_eq_ok_iff.1 hunique
  obtain ⟨g₁, methods, hg₁, hmethods, rfl⟩ := Checked.seq_eq_ok_iff.1 hd
  obtain ⟨g₂, fields, hg₂, hfields, rfl⟩ := Checked.seq_eq_ok_iff.1 hg₁
  obtain ⟨g₃, modifiers, hg₃, hmodifiers, rfl⟩ := Checked.seq_eq_ok_iff.1 hg₂
  obtain ⟨name, -, rfl⟩ := Checked.map_eq_ok_iff.1 hg₃
  have hfield : ∀ f ∈ fields, f.Canonical ∧ Within TypeExpr.memberDepth f.parts := by
    intro f hf
    obtain ⟨item, hitem⟩ := Json.exists_of_mem_tupleOr hfields hf
    exact Field.canonical_of_check hitem
  have hmethod : ∀ m ∈ methods, m.Canonical ∧ Within TypeExpr.memberDepth m.parts := by
    intro m hm
    obtain ⟨item, hitem⟩ := Json.exists_of_mem_tupleOr hmethods hm
    exact Method.canonical_of_check hitem
  exact ⟨⟨Modifiers.canonical_of_memberOr hmodifiers, fun f hf => (hfield f hf).1,
    fun m hm => (hmethod m hm).1, hnames, hsignatures⟩,
    within_parts (fun f hf => (hfield f hf).2) fun m hm => (hmethod m hm).2⟩

theorem lossless : Json.Lossless check toJson := fun _ _ h =>
  (canonical_of_check h).1.check_toJson (canonical_of_check h).2

end ClassStub
end ApiStubs
