import ApiStubs.Proofs.Batch.Record
import ApiStubs.Proofs.Json.Reading

/-! The text of a result. The record of a result that can be written is plain, so the result is read
back from its text as well. -/

namespace ApiStubs

open Json (Plain)

namespace Json

theorem Plain.mono {levels levels' : Nat} {j : Json} (h : Plain levels j) (hle : levels ≤ levels') :
    Plain levels' j := by
  induction h generalizing levels' with
  | null => exact .null
  | bool => exact .bool
  | int h => exact .int h
  | str h => exact .str h
  | arr _ ih =>
    obtain ⟨k, rfl⟩ := Nat.exists_eq_add_of_le' (Nat.le_of_add_left_le hle)
    exact .arr fun item hitem => ih item hitem (by omega)
  | obj hkeys htorn _ ih =>
    obtain ⟨k, rfl⟩ := Nat.exists_eq_add_of_le' (Nat.le_of_add_left_le hle)
    exact .obj hkeys htorn fun member hmember => ih member hmember (by omega)

theorem Plain.record {levels : Nat} {members : List (Text × Json)} (keys : List Text)
    (hkeys : keys.Nodup ∧ ∀ key ∈ keys, key.isTorn = false) (hmembers : members.map Prod.fst = keys)
    (hvalues : ∀ j ∈ members.map Prod.snd, Plain levels j) : Plain (levels + 1) (.obj members) := by
  subst hmembers
  exact .obj hkeys.1 (fun member hmember => hkeys.2 _ (List.mem_map_of_mem hmember))
    fun member hmember => hvalues _ (List.mem_map_of_mem hmember)

theorem Plain.map {α : Type} {levels : Nat} {toJson : α → Json} {items : List α}
    (h : ∀ a ∈ items, Plain levels (toJson a)) : Plain (levels + 1) (.arr (items.map toJson)) := by
  refine .arr fun item hitem => ?_
  obtain ⟨a, ha, rfl⟩ := List.mem_map.1 hitem
  exact h a ha

theorem Plain.strings {levels : Nat} {texts : List Text} (h : ∀ text ∈ texts, text.isTorn = false) :
    Plain (levels + 1) (strings texts) :=
  .map fun text htext => .str (h text htext)

end Json

theorem TypeExpr.Safe.plain {t : TypeExpr} (h : t.Safe) {levels : Nat} (hdepth : t.depth ≤ levels) :
    Plain (2 * levels) t.toJson := by
  induction h generalizing levels with
  | @node name arguments _ _ htorn _ ih =>
    obtain ⟨rest, rfl, hall⟩ := depth_le_iff.1 hdepth
    have hname : Plain (2 * rest + 1) (.str name) := .str htorn
    have harguments : Plain (2 * rest + 1) (.arr (arguments.map toJson)) :=
      .map fun t ht => ih t ht (hall t ht)
    rw [toJson, toJsons_eq_map]
    exact .record ["name", "arguments"] (by decide) rfl (by simp [hname, harguments])

section Members

variable {levels : Nat}

theorem Param.plain {p : Param} (h : Whole p.parts) : Plain 1 p.toJson := by
  have htype : Plain 0 (.str p.typeText) := .str (h _ (by simp [parts]))
  have hname : Plain 0 (.str p.name) := .str (h _ (by simp [parts]))
  exact .record ["type", "name"] (by decide) rfl (by simp [htype, hname])

theorem Field.Canonical.plain {f : Field} (h : f.Canonical) (hwithin : Within levels f.parts)
    (hwhole : Whole f.parts) : Plain (2 * levels + 2) f.toJson := by
  have hname : Plain (2 * levels + 1) (.str f.name) := .str (hwhole _ (by simp [parts]))
  have htype : Plain (2 * levels + 1) f.type.toJson :=
    (h.type.plain (hwithin _ (by simp [parts]))).mono (by omega)
  have hmodifiers : Plain (2 * levels + 1) (.strings f.modifiers) :=
    .strings fun text htext => hwhole _ (by simp [parts, RecordPart.texts, htext])
  exact .record ["name", "type", "modifiers"] (by decide) rfl (by simp [hname, htype, hmodifiers])

theorem Method.Canonical.plain {m : Method} (h : m.Canonical) (hwithin : Within levels m.parts)
    (hwhole : Whole m.parts) : Plain (2 * levels + 3) m.toJson := by
  have hname : Plain (2 * levels + 2) (.str m.name) := .str (hwhole _ (by simp [parts]))
  have hparams : Plain 2 (.arr (m.params.map Param.toJson)) := by
    refine .map fun p hp => Param.plain (hwhole.subset fun part hpart => ?_)
    simp only [parts, List.cons_append, List.mem_cons, List.mem_append, List.mem_flatMap]
    exact .inr (.inl ⟨p, hp, hpart⟩)
  replace hparams := hparams.mono (Nat.le_add_left 2 (2 * levels))
  have hreturns : Plain (2 * levels + 2) m.returns.toJson :=
    (h.returns.plain (hwithin _ (by simp [parts]))).mono (by omega)
  have hmodifiers : Plain (2 * levels + 2) (.strings m.modifiers) :=
    .strings fun text htext => hwhole _ (by simp [parts, RecordPart.texts, htext])
  exact .record ["name", "parameters", "return_type", "modifiers"] (by decide) rfl
    (by simp [hname, hparams, hreturns, hmodifiers])

theorem ClassStub.Canonical.plain {c : ClassStub} (h : c.Canonical)
    (hwithin : Within levels c.parts) (hwhole : Whole c.parts) :
    Plain (2 * levels + 5) c.toJson := by
  have hname : Plain (2 * levels + 4) (.str c.name) := .str (hwhole _ (by simp [parts]))
  have hmodifiers : Plain (2 * levels + 4) (.strings c.modifiers) :=
    .strings fun text htext => hwhole _ (by simp [parts, RecordPart.texts, htext])
  have hfields : Plain (2 * levels + 4) (.arr (c.fields.map Field.toJson)) := by
    refine .map fun f hf => ?_
    have hsub := c.field_parts_subset hf
    exact ((h.fields f hf).plain (hwithin.subset hsub) (hwhole.subset hsub)).mono (by omega)
  have hmethods : Plain (2 * levels + 4) (.arr (c.methods.map Method.toJson)) := by
    refine .map fun m hm => ?_
    have hsub := c.method_parts_subset hm
    exact (h.methods m hm).plain (hwithin.subset hsub) (hwhole.subset hsub)
  exact .record ["name", "modifiers", "fields", "methods"] (by decide) rfl
    (by simp [hname, hmodifiers, hfields, hmethods])

theorem SkippedClass.plain {s : SkippedClass} (h : Whole s.parts) : Plain 1 s.toJson := by
  have hname : Plain 0 (.str s.name) := .str (h _ (by simp [parts]))
  have hreason : Plain 0 (.str s.reason) := .str (h _ (by simp [parts]))
  exact .record ["name", "reason"] (by decide) rfl (by simp [hname, hreason])

end Members

namespace Compilation

theorem plain {r : Compilation} {levels : Nat} (h : ∀ c ∈ r.classes, c.Canonical)
    (hwithin : Within levels r.parts) (hwhole : Whole r.parts)
    (htotal : (Json.decimal r.total.natAbs).length ≤ Digits.limit) :
    Plain (2 * levels + 7) r.toJson := by
  have hclasses : Plain (2 * levels + 6) (.arr (r.classes.map ClassStub.toJson)) := by
    refine .map fun c hc => ?_
    have hsub := r.class_parts_subset hc
    exact (h c hc).plain (hwithin.subset hsub) (hwhole.subset hsub)
  have hexcluded : Plain (2 * levels + 6) (.strings r.excluded) :=
    .strings fun text htext => hwhole _ (by simp [parts, RecordPart.texts, htext])
  have hskipped : Plain 2 (.arr (r.skipped.map SkippedClass.toJson)) := by
    refine .map fun s hs => SkippedClass.plain (hwhole.subset fun part hpart => ?_)
    simp only [parts, List.mem_append, List.mem_flatMap]
    exact .inl (.inr ⟨s, hs, hpart⟩)
  replace hskipped : Plain (2 * levels + 6) _ := hskipped.mono (by omega)
  have hunused : Plain (2 * levels + 6) (.strings r.unusedExclusions) :=
    .strings fun text htext => hwhole _ (by simp [parts, RecordPart.texts, htext])
  have htotal : Plain (2 * levels + 6) (.int r.total) := .int htotal
  exact .record ["classes", "excluded", "skipped", "unused_exclusions", "total"] (by decide) rfl
    (by simp [hclasses, hexcluded, hskipped, hunused, htotal])

/-- How many arrays and objects lie in each other in the record of a result: at most two for every
type, and seven around the outermost one. -/
def recordLevels : Nat := 2 * TypeExpr.memberDepth + 7

theorem readText_textRecord [Json.DepthLimit] {r : Compilation} {value : Json}
    (h : ∀ c ∈ r.classes, c.Canonical)
    (htotal : (Json.decimal r.total.natAbs).length ≤ Digits.limit)
    (hlevels : recordLevels ≤ Json.DepthLimit.levels) (hrecord : r.textRecord = .ok value) :
    Json.readText value.write = .ok value := by
  obtain ⟨⟨hwithin, hwhole⟩, rfl⟩ := textRecordOf_eq_ok_iff.1 hrecord
  exact Json.readText_write ((plain h hwithin hwhole htotal).mono hlevels)

end Compilation

end ApiStubs
