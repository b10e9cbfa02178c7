import ApiStubs.Proofs.Merge.Fields
import ApiStubs.Proofs.Observed.Record
import ApiStubs.Proofs.TypeExpr.Head

/-! The erased type of an observed text. The text is taken as a name as a whole, whereas a parameter
of the same text is read; the two have one base name unless the text ends with arguments in
brackets. -/

namespace ApiStubs

namespace ObservedType

def Accepted (t : ObservedType) : Prop := ∃ value, check value = .ok t

theorem accepted_of_record {t : ObservedType}
    (h : ((check t.toJson).result "ReflectedType").toOption = some t) : t.Accepted :=
  ⟨t.toJson, Checked.result_eq_ok_iff.1 (eq_ok_of_toOption h)⟩

theorem checkMembers_isTrimmed {members : List (Text × Json)} {t : ObservedType}
    (h : checkMembers members = .ok t) : Text.IsTrimmed t.name := by
  obtain ⟨g, parameters, hg, -, rfl⟩ := Checked.seq_eq_ok_iff.1 h
  obtain ⟨name, hname, rfl⟩ := Checked.map_eq_ok_iff.1 hg
  obtain ⟨value, hvalue⟩ := Json.checkMember_eq_ok hname
  obtain ⟨s, -, -, -, -, rfl⟩ := checkName_eq_ok_iff.1 hvalue
  exact Text.isTrimmed_trim s

theorem Accepted.isTrimmed {t : ObservedType} (h : t.Accepted) : Text.IsTrimmed t.name := by
  obtain ⟨value, hvalue⟩ := h
  rw [check.eq_def] at hvalue
  split at hvalue
  · exact checkMembers_isTrimmed hvalue
  · obtain ⟨members, hmembers⟩ := Json.checkModel_eq_ok hvalue
    exact checkMembers_isTrimmed hmembers

theorem Accepted.readable {t : ObservedType} (h : t.Accepted) : t.Readable :=
  h.elim fun _ => check_readable

theorem Accepted.exists_read {t : ObservedType} (h : t.Accepted) :
    ∃ read, TypeExpr.parse t.name = .ok read ∧
      read.name = Lua.typeName (TypeExpr.headOf t.name) := by
  obtain ⟨read, hread⟩ := h.readable.2
  refine ⟨read, hread, ?_⟩
  rw [TypeExpr.name_of_parse hread, Text.trim_eq_self h.isTrimmed]

end ObservedType

/-- An accepted type erases to the base that its text is read with exactly if the text does not end
with arguments in brackets. So does the placeholder of a field have the base name of a parameter
that is declared with the same text. -/
theorem observed_type_is_erased_iff {t : ObservedType} (ht : t.Accepted) :
    ∃ type read erased, t.toType = .ok type ∧ TypeExpr.parse t.name = .ok read ∧
      read.erased = .ok erased ∧ (type = erased ↔ ¬TypeExpr.IsBracketed t.name) ∧
      ∀ (f : ObservedField) (name : Text), f.type = t →
        ∃ field param declared, Merge.placeholder f = .ok field ∧
          Param.make t.name name = .ok param ∧ param.type = .ok declared ∧
          field.type = type ∧ declared.erased = .ok erased ∧
          (field.type.name = declared.name ↔ ¬TypeExpr.IsBracketed t.name) := by
  obtain ⟨read, hread, hname⟩ := ht.exists_read
  have hbase : Lua.typeName t.name = read.name ↔ ¬TypeExpr.IsBracketed t.name := by
    rw [hname]
    exact TypeExpr.typeName_eq_typeName_headOf_iff ht.isTrimmed
  have herased := (TypeExpr.safe_of_parse hread).erased_eq
  refine ⟨_, read, _, ht.readable.toType_eq, hread, herased, ?_, fun f name hf => ?_⟩
  · simpa using hbase
  · have hreadable : f.Readable := by
      rw [ObservedField.Readable, hf]
      exact ht.readable
    have hfield : Merge.placeholder f = .ok f.bare := Merge.placeholder_eq hreadable
    refine ⟨f.bare, _, read, hfield, Param.make_eq_ok_iff.2 ⟨read, hread, rfl⟩,
      TypeExpr.parse_render hread, ?_, herased, ?_⟩
    · simp [ObservedField.bare, Field.make, hf]
    · simpa [ObservedField.bare, Field.make, hf] using hbase

/-- Text in brackets and more after them is one name in the field and in the parameter. -/
theorem observed_type_is_erased_iff_array :
    let t : ObservedType := ⟨"Map< K , V >[]", ["K", "V"]⟩
    let f : ObservedField := ⟨"entries", t, [], false⟩
    t.Accepted ∧ ¬TypeExpr.IsBracketed t.name ∧
      (∃ type read, t.toType = .ok type ∧ TypeExpr.parse t.name = .ok read ∧
        read.erased = .ok type) ∧
      ∃ field param declared, Merge.placeholder f = .ok field ∧
        Param.make t.name f.name = .ok param ∧ param.type = .ok declared ∧
        field.type.name = declared.name := by
  intro t f
  have haccepted : t.Accepted := ObservedType.accepted_of_record (by decide +kernel)
  have hplain : ¬TypeExpr.IsBracketed t.name := by decide +kernel
  obtain ⟨type, read, erased, htype, hread, herased, hsame, hfields⟩ :=
    observed_type_is_erased_iff haccepted
  obtain ⟨field, param, declared, hfield, hparam, hdeclared, -, -, hnames⟩ := hfields f f.name rfl
  have heq : type = erased := hsame.2 hplain
  exact ⟨haccepted, hplain, ⟨type, read, htype, hread, heq ▸ herased⟩, field, param, declared,
    hfield, hparam, hdeclared, hnames.2 hplain⟩

/-- A field for which the page has the very text that was observed is not taken from the page. -/
theorem bracketed_type_is_not_erased :
    let t : ObservedType := ⟨"Map<K>", ["K"]⟩
    let f : ObservedField := ⟨"entries", t, [], false⟩
    let read : TypeExpr := ⟨"Map", [⟨"K", []⟩]⟩
    t.Accepted ∧ t.toType = .ok ⟨"Map<K>", []⟩ ∧
      TypeExpr.parse t.name = .ok read ∧ read.erased = .ok ⟨"Map", []⟩ ∧
      Merge.placeholder f = .ok ⟨"entries", ⟨"Map<K>", []⟩, []⟩ ∧
      Param.make t.name f.name = .ok ⟨"Map<K>", "entries"⟩ ∧
      (⟨"Map<K>", "entries"⟩ : Param).type = .ok read ∧
      read.sameBase true ⟨"Map<K>", []⟩ = false := by
  intro t f read
  have haccepted : t.Accepted := ObservedType.accepted_of_record (by decide +kernel)
  have hread : TypeExpr.parse t.name = .ok read := eq_ok_of_toOption (by decide +kernel)
  exact ⟨haccepted, eq_ok_of_toOption (by decide +kernel), hread,
    eq_ok_of_toOption (by decide +kernel), eq_ok_of_toOption (by decide +kernel),
    eq_ok_of_toOption (by decide +kernel), hread, by decide +kernel⟩

end ApiStubs
