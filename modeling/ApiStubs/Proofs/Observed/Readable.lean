import ApiStubs.Observed.Class
import ApiStubs.Proofs.Member.Param
import ApiStubs.Proofs.Modifiers

/-! Observed classes that validation accepts. All their types can be read, so none of their members
fails to be made. -/

namespace ApiStubs

def ObservedType.Readable (t : ObservedType) : Prop :=
  t.name.isTorn = false ∧ ∃ type, TypeExpr.parse t.name = .ok type

namespace ObservedType

theorem checkName_readable {value : Json} {name : Text} (h : checkName value = .ok name)
    (parameters : List Text) : Readable ⟨name, parameters⟩ := by
  obtain ⟨s, hs, hname⟩ := Checked.andThen_eq_ok_iff.1 h
  obtain ⟨s', -, hne⟩ := Checked.andThen_eq_ok_iff.1 hs
  obtain ⟨htorn, -, rfl⟩ := Json.checkNonEmpty_eq_ok_iff.1 hne
  split at hname
  · rename_i type htype
    cases hname
    exact ⟨Lua.not_isTorn_trim htorn, type, htype⟩
  · exact absurd hname Checked.ofFault_ne_ok

theorem checkMembers_readable {members : List (Text × Json)} {t : ObservedType}
    (h : checkMembers members = .ok t) : t.Readable := by
  obtain ⟨g, parameters, hg, -, rfl⟩ := Checked.seq_eq_ok_iff.1 h
  obtain ⟨name, hname, rfl⟩ := Checked.map_eq_ok_iff.1 hg
  obtain ⟨value, hvalue⟩ := Json.checkMember_eq_ok hname
  exact checkName_readable hvalue parameters

theorem check_readable {value : Json} {t : ObservedType} (h : check value = .ok t) :
    t.Readable := by
  rw [check.eq_def] at h
  split at h
  · exact checkMembers_readable h
  · obtain ⟨members, hmembers⟩ := Json.checkModel_eq_ok h
    exact checkMembers_readable hmembers

variable {t : ObservedType} (h : t.Readable)
include h

theorem Readable.typeName_ne_nil : Lua.typeName t.name ≠ [] := by
  obtain ⟨-, type, htype⟩ := h
  exact fun hnil => TypeExpr.trim_ne_nil_of_parse htype (Lua.typeName_eq_nil_iff.1 hnil)

theorem Readable.toType_eq : t.toType = .ok ⟨Lua.typeName t.name, []⟩ :=
  TypeExpr.make_eq_ok_iff.2 ⟨Lua.not_isTorn_typeName h.1, h.typeName_ne_nil, rfl⟩

end ObservedType

def ObservedField.Readable (f : ObservedField) : Prop := f.type.Readable

structure ObservedMethod.Readable (m : ObservedMethod) : Prop where
  params : ∀ p ∈ m.params, p.type.Readable
  returns : m.returns.Readable

structure ObservedClass.Readable (c : ObservedClass) : Prop where
  fields : ∀ f ∈ c.fields, f.Readable
  methods : ∀ m ∈ c.methods, m.Readable

/-- Validation made the class of some record. -/
def ObservedClass.Accepted (c : ObservedClass) : Prop := ∃ value, check value = .ok c

theorem ObservedField.check_readable {value : Json} {f : ObservedField} (h : check value = .ok f) :
    f.Readable := by
  obtain ⟨members, hmembers⟩ := Json.checkModel_eq_ok h
  obtain ⟨g₁, synthetic, hg₁, -, rfl⟩ := Checked.seq_eq_ok_iff.1 hmembers
  obtain ⟨g₂, modifiers, hg₂, -, rfl⟩ := Checked.seq_eq_ok_iff.1 hg₁
  obtain ⟨g₃, type, hg₃, htype, rfl⟩ := Checked.seq_eq_ok_iff.1 hg₂
  obtain ⟨name, -, rfl⟩ := Checked.map_eq_ok_iff.1 hg₃
  obtain ⟨record, hrecord⟩ := Json.checkMember_eq_ok htype
  exact ObservedType.check_readable hrecord

theorem ObservedParam.check_readable {value : Json} {p : ObservedParam} (h : check value = .ok p) :
    p.type.Readable := by
  obtain ⟨members, hmembers⟩ := Json.checkModel_eq_ok h
  obtain ⟨g, name, hg, -, rfl⟩ := Checked.seq_eq_ok_iff.1 hmembers
  obtain ⟨type, htype, rfl⟩ := Checked.map_eq_ok_iff.1 hg
  obtain ⟨record, hrecord⟩ := Json.checkMember_eq_ok htype
  exact ObservedType.check_readable hrecord

theorem ObservedMethod.noValue_readable : noValue.Readable :=
  ⟨by decide, ⟨"void", []⟩, eq_ok_of_toOption (by decide +kernel)⟩

theorem ObservedMethod.check_readable {value : Json} {m : ObservedMethod}
    (h : check value = .ok m) : m.Readable := by
  obtain ⟨members, hmembers⟩ := Json.checkModel_eq_ok h
  obtain ⟨g₁, synthetic, hg₁, -, rfl⟩ := Checked.seq_eq_ok_iff.1 hmembers
  obtain ⟨g₂, modifiers, hg₂, -, rfl⟩ := Checked.seq_eq_ok_iff.1 hg₁
  obtain ⟨g₃, returns, hg₃, hreturns, rfl⟩ := Checked.seq_eq_ok_iff.1 hg₂
  obtain ⟨g₄, params, hg₄, hparams, rfl⟩ := Checked.seq_eq_ok_iff.1 hg₃
  obtain ⟨name, -, rfl⟩ := Checked.map_eq_ok_iff.1 hg₄
  constructor
  · intro p hp
    rcases Json.checkMemberOr_eq_ok hparams with rfl | ⟨items, hitems⟩
    · cases hp
    · obtain ⟨item, hitem⟩ := Json.checkList_eq_ok hitems hp
      exact ObservedParam.check_readable hitem
  · rcases Json.checkMemberOr_eq_ok hreturns with rfl | ⟨record, hrecord⟩
    · exact ObservedMethod.noValue_readable
    · exact ObservedType.check_readable hrecord

theorem ObservedClass.Accepted.readable {c : ObservedClass} (h : c.Accepted) : c.Readable := by
  obtain ⟨value, hvalue⟩ := h
  obtain ⟨members, hmembers⟩ := Json.checkModel_eq_ok hvalue
  obtain ⟨g₁, methods, hg₁, hmethods, rfl⟩ := Checked.seq_eq_ok_iff.1 hmembers
  obtain ⟨g₂, fields, hg₂, hfields, rfl⟩ := Checked.seq_eq_ok_iff.1 hg₁
  obtain ⟨g₃, modifiers, hg₃, -, rfl⟩ := Checked.seq_eq_ok_iff.1 hg₂
  obtain ⟨name, -, rfl⟩ := Checked.map_eq_ok_iff.1 hg₃
  constructor
  · intro f hf
    rcases Json.checkMemberOr_eq_ok hfields with rfl | ⟨items, hitems⟩
    · cases hf
    · obtain ⟨item, hitem⟩ := Json.checkList_eq_ok hitems hf
      exact ObservedField.check_readable hitem
  · intro m hm
    rcases Json.checkMemberOr_eq_ok hmethods with rfl | ⟨items, hitems⟩
    · cases hm
    · obtain ⟨item, hitem⟩ := Json.checkList_eq_ok hitems hm
      exact ObservedMethod.check_readable hitem

theorem ObservedClass.accepted_of_record {c : ObservedClass}
    (h : ((check c.toJson).result "ReflectedClass").toOption = some c) : c.Accepted :=
  ⟨c.toJson, Checked.result_eq_ok_iff.1 (eq_ok_of_toOption h)⟩

def ObservedField.bare (f : ObservedField) : Field :=
  Field.make f.name ⟨Lua.typeName f.type.name, []⟩ f.modifiers

theorem ObservedField.Readable.toField_eq {f : ObservedField} (h : f.Readable) :
    f.toField = .ok f.bare := by
  rw [ObservedField.toField, ObservedType.Readable.toType_eq h]
  rfl

theorem ObservedParam.toParam_eq {p : ObservedParam} (h : p.type.Readable) :
    ∃ type, TypeExpr.parse p.type.name = .ok type ∧
      p.toParam = .ok ⟨type.render, Lua.identifier p.name⟩ := by
  obtain ⟨-, type, htype⟩ := h
  exact ⟨type, htype, Param.make_eq_ok_iff.2 ⟨type, htype, rfl⟩⟩

theorem ObservedMethod.Readable.exists_toMethod {m : ObservedMethod} (h : m.Readable) :
    ∃ params, m.params.mapM ObservedParam.toParam = .ok params ∧
      m.toMethod =
        .ok (Method.make m.name params ⟨Lua.typeName m.returns.name, []⟩ m.modifiers) := by
  have hparams : ∃ params, m.params.mapM ObservedParam.toParam = .ok params :=
    exists_mapM_eq_ok fun p hp => by
      obtain ⟨type, -, hparam⟩ := ObservedParam.toParam_eq (h.params p hp)
      exact ⟨_, hparam⟩
  obtain ⟨params, hmap⟩ := hparams
  refine ⟨params, hmap, ?_⟩
  rw [ObservedMethod.toMethod, hmap, h.returns.toType_eq]
  rfl

end ApiStubs
