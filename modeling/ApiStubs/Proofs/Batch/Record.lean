import ApiStubs.Compilation
import ApiStubs.Proofs.Member.Record
import ApiStubs.Proofs.Observed.Record

/-! Results of runs as records. A result whose merged classes are read back from their records is
read back from its own. -/

namespace ApiStubs

theorem SkippedClass.check_toJson (s : SkippedClass) : check s.toJson = .ok s := by
  cases s
  exact Checked.seq_eq_ok (Checked.map_eq_ok (Json.checkMember_eq_ok_of_lookup rfl rfl))
    (Json.checkMember_eq_ok_of_lookup rfl rfl)

theorem SkippedClass.lossless : Json.Lossless check toJson := fun _ s _ => s.check_toJson

namespace Compilation

theorem check_toJson {r : Compilation} (h : ∀ c ∈ r.classes, ClassStub.check c.toJson = .ok c) :
    check r.toJson = .ok r := by
  have hclasses : Json.checkList ClassStub.check (.arr (r.classes.map ClassStub.toJson)) =
      .ok r.classes :=
    Json.checkList_map h
  have hskipped : Json.checkList SkippedClass.check (.arr (r.skipped.map SkippedClass.toJson)) =
      .ok r.skipped :=
    Json.checkList_map fun s _ => s.check_toJson
  cases r
  exact Checked.seq_eq_ok (Checked.seq_eq_ok (Checked.seq_eq_ok (Checked.seq_eq_ok
    (Checked.map_eq_ok (Json.checkMemberOr_eq_ok_of_lookup rfl hclasses))
    (Json.checkMemberOr_eq_ok_of_lookup rfl (Json.checkStrings_strings _)))
    (Json.checkMemberOr_eq_ok_of_lookup rfl hskipped))
    (Json.checkMemberOr_eq_ok_of_lookup rfl (Json.checkStrings_strings _)))
    (Json.checkMemberOr_eq_ok_of_lookup rfl rfl)

theorem exists_of_mem_classes {value : Json} {r : Compilation} (h : check value = .ok r)
    {c : ClassStub} (hc : c ∈ r.classes) : ∃ item, ClassStub.check item = .ok c := by
  obtain ⟨members, hmembers⟩ := Json.checkModel_eq_ok h
  obtain ⟨g₁, total, hg₁, -, rfl⟩ := Checked.seq_eq_ok_iff.1 hmembers
  obtain ⟨g₂, unused, hg₂, -, rfl⟩ := Checked.seq_eq_ok_iff.1 hg₁
  obtain ⟨g₃, skipped, hg₃, -, rfl⟩ := Checked.seq_eq_ok_iff.1 hg₂
  obtain ⟨g₄, excluded, hg₄, -, rfl⟩ := Checked.seq_eq_ok_iff.1 hg₃
  obtain ⟨classes, hclasses, rfl⟩ := Checked.map_eq_ok_iff.1 hg₄
  exact Json.exists_of_mem_listOr hclasses hc

theorem lossless : Json.Lossless check toJson := fun _ _ h => check_toJson fun c hc =>
  (exists_of_mem_classes h hc).elim fun item hitem => ClassStub.lossless item c hitem

theorem class_parts_subset (r : Compilation) {c : ClassStub} (hc : c ∈ r.classes) :
    c.parts ⊆ r.parts := by
  intro part hpart
  simp only [parts, List.append_assoc, List.mem_append, List.mem_flatMap]
  exact .inl ⟨c, hc, hpart⟩

theorem within_parts {r : Compilation} {levels : Nat}
    (h : ∀ c ∈ r.classes, Within levels c.parts) : Within levels r.parts := by
  intro t ht
  simp only [parts, RecordPart.texts, SkippedClass.parts, List.append_assoc, List.mem_append,
    List.mem_map, List.mem_flatMap, List.mem_cons, List.not_mem_nil, reduceCtorEq, and_false,
    exists_false, or_false] at ht
  obtain ⟨c, hc, hpart⟩ := ht
  exact h c hc t hpart

theorem within_of_check {value : Json} {r : Compilation} (h : check value = .ok r) :
    Within TypeExpr.memberDepth r.parts :=
  within_parts fun _ hc => (exists_of_mem_classes h hc).elim fun _ hitem =>
    (ClassStub.canonical_of_check hitem).2

end Compilation

end ApiStubs
