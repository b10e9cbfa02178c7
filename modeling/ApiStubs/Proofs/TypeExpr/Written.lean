import ApiStubs.TypeExpr.Written
import Mathlib.Data.List.TakeWhile
import Mathlib.Tactic.SplitIfs

/-! What can be written: records in which no type lies too deep and, if they are going to be text,
no text is torn. -/

namespace ApiStubs

def Within (levels : Nat) (parts : List RecordPart) : Prop :=
  ∀ t, .type t ∈ parts → t.depth ≤ levels

def Whole (parts : List RecordPart) : Prop := ∀ text, .text text ∈ parts → text.isTorn = false

theorem Within.mono {levels levels' : Nat} {parts : List RecordPart} (h : Within levels parts)
    (hle : levels ≤ levels') : Within levels' parts := fun t ht => Nat.le_trans (h t ht) hle

theorem Within.subset {levels : Nat} {parts some : List RecordPart} (h : Within levels parts)
    (hsub : some ⊆ parts) : Within levels some := fun t ht => h t (hsub ht)

theorem Whole.subset {parts some : List RecordPart} (h : Whole parts) (hsub : some ⊆ parts) :
    Whole some := fun text ht => h text (hsub ht)

theorem RecordPart.depthFault?_eq_none_iff {t : TypeExpr} :
    depthFault? (.type t) = none ↔ t.depth ≤ TypeExpr.memberDepth := by
  rw [depthFault?]
  split_ifs with h
  · exact iff_of_true rfl h
  · exact iff_of_false nofun h

theorem recordOf_eq_ok_iff {parts : List RecordPart} {record value : Json} :
    recordOf parts record = .ok value ↔ Within TypeExpr.memberDepth parts ∧ value = record := by
  have hparts : parts.findSome? RecordPart.depthFault? = none ↔
      Within TypeExpr.memberDepth parts := by
    rw [List.findSome?_eq_none_iff]
    constructor
    · exact fun h t ht => RecordPart.depthFault?_eq_none_iff.1 (h _ ht)
    · rintro h (text | t) hpart
      · rfl
      · exact RecordPart.depthFault?_eq_none_iff.2 (h t hpart)
  rw [recordOf, ← hparts]
  cases parts.findSome? RecordPart.depthFault? <;> simp [eq_comm]

theorem Utf8.exists_encode_iff {text : Text} :
    (∃ octets, encode text = .ok octets) ↔ text.isTorn = false := by
  have hchar : ∀ c : CodePoint, (octetsOfChar? c).isSome = !c.isSurrogate := by
    rintro (c | c) <;> rfl
  have hall : (text.dropWhile fun c => (octetsOfChar? c).isSome) = [] ↔ text.isTorn = false := by
    simp [List.dropWhile_eq_nil_iff, hchar, Text.isTorn]
  rw [encode, encodeWith, ← hall]
  split <;> simp_all

theorem RecordPart.fault?_text_eq_none_iff {text : Text} :
    fault? (.text text) = none ↔ text.isTorn = false := by
  rw [← Utf8.exists_encode_iff, fault?]
  cases Utf8.encode text <;> simp

theorem textRecordOf_eq_ok_iff_forall {parts : List RecordPart} {record value : Json} :
    textRecordOf parts record = .ok value ↔
      (∀ part ∈ parts, part.fault? = none) ∧ value = record := by
  rw [← List.findSome?_eq_none_iff, textRecordOf]
  cases parts.findSome? RecordPart.fault? <;> simp [eq_comm]

theorem textRecordOf_eq_ok_iff {parts : List RecordPart} {record value : Json} :
    textRecordOf parts record = .ok value ↔
      (Within TypeExpr.memberDepth parts ∧ Whole parts) ∧ value = record := by
  rw [textRecordOf_eq_ok_iff_forall]
  refine and_congr_left fun _ => ⟨fun h => ?_, ?_⟩
  · exact ⟨fun t ht => RecordPart.depthFault?_eq_none_iff.1 (h _ ht),
      fun text ht => RecordPart.fault?_text_eq_none_iff.1 (h _ ht)⟩
  · rintro ⟨htypes, htexts⟩ (text | t) hpart
    · exact RecordPart.fault?_text_eq_none_iff.2 (htexts text hpart)
    · exact RecordPart.depthFault?_eq_none_iff.2 (htypes t hpart)

end ApiStubs
