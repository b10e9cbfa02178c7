import ApiStubs.Text.Sorted
import Mathlib.Logic.Function.Basic
import Mathlib.Tactic.SplitIfs

/-! Texts in code point order, and strictly ascending lists of them. A strictly ascending list is
its own sorted form. -/

namespace ApiStubs

namespace CodePoint

theorem toNat_injective : Function.Injective toNat := by
  intro a b h
  cases a with
  | char c =>
    cases b with
    | char d => exact congrArg char (Char.toNat_inj.1 h)
    | surrogate offset =>
      have hvalid : c.toNat < 0xD800 ∨ 0xDFFF < c.toNat ∧ c.toNat < 0x110000 := c.valid
      change c.toNat = firstSurrogate + offset at h
      have hbound := offset.isLt
      simp only [firstSurrogate] at h
      omega
  | surrogate offset =>
    cases b with
    | char d =>
      have hvalid : d.toNat < 0xD800 ∨ 0xDFFF < d.toNat ∧ d.toNat < 0x110000 := d.valid
      change firstSurrogate + offset = d.toNat at h
      have hbound := offset.isLt
      simp only [firstSurrogate] at h
      omega
    | surrogate other =>
      change firstSurrogate + offset.val = firstSurrogate + other.val at h
      exact congrArg surrogate (Fin.ext (Nat.add_left_cancel h))

instance : Std.Irrefl (α := CodePoint) (· < ·) := ⟨fun a => Nat.lt_irrefl a.toNat⟩

instance : Trans (α := CodePoint) (β := CodePoint) (γ := CodePoint) (· < ·) (· < ·) (· < ·) :=
  ⟨fun h₁ h₂ => Nat.lt_trans h₁ h₂⟩

theorem lt_trichotomy (a b : CodePoint) : a < b ∨ a = b ∨ b < a := by
  rcases Nat.lt_trichotomy a.toNat b.toNat with h | h | h
  · exact .inl h
  · exact .inr (.inl (toNat_injective h))
  · exact .inr (.inr h)

end CodePoint

theorem Text.lt_trichotomy (a b : Text) : a < b ∨ a = b ∨ b < a := by
  induction a generalizing b with
  | nil =>
    cases b with
    | nil => exact .inr (.inl rfl)
    | cons d rest => exact .inl (List.nil_lt_cons d rest)
  | cons c tail ih =>
    cases b with
    | nil => exact .inr (.inr (List.nil_lt_cons c tail))
    | cons d rest =>
      simp only [List.cons_lt_cons_iff, List.cons.injEq]
      rcases CodePoint.lt_trichotomy c d with h | rfl | h
      · exact .inl (.inl h)
      · rcases ih rest with h | h | h
        · exact .inl (.inr ⟨rfl, h⟩)
        · exact .inr (.inl ⟨rfl, h⟩)
        · exact .inr (.inr (.inr ⟨rfl, h⟩))
      · exact .inr (.inr (.inl h))

namespace Sorted

theorem mem_insertOnce {text other : Text} {texts : List Text} :
    other ∈ insertOnce text texts ↔ other = text ∨ other ∈ texts := by
  induction texts with
  | nil => simp [insertOnce]
  | cons first rest ih =>
    rw [insertOnce]
    split_ifs with hlt heq
    · simp
    · subst heq
      simp
    · simp only [List.mem_cons, ih]
      exact or_left_comm

theorem mem_sortOnce {text : Text} {texts : List Text} : text ∈ sortOnce texts ↔ text ∈ texts := by
  induction texts with
  | nil => rfl
  | cons first rest ih => rw [sortOnce, mem_insertOnce, ih, List.mem_cons]

theorem pairwise_insertOnce {text : Text} {texts : List Text} (h : texts.Pairwise (· < ·)) :
    (insertOnce text texts).Pairwise (· < ·) := by
  induction texts with
  | nil => exact List.pairwise_singleton _ _
  | cons first rest ih =>
    obtain ⟨hfirst, hrest⟩ := List.pairwise_cons.1 h
    rw [insertOnce]
    split_ifs with hlt heq
    · refine List.pairwise_cons.2 ⟨fun other hother => ?_, h⟩
      rcases List.mem_cons.1 hother with rfl | hother
      · exact hlt
      · exact List.lt_trans hlt (hfirst other hother)
    · exact h
    · have hafter : first < text := by
        rcases Text.lt_trichotomy text first with h | h | h
        · exact absurd h hlt
        · exact absurd h heq
        · exact h
      refine List.pairwise_cons.2 ⟨fun other hother => ?_, ih hrest⟩
      rcases mem_insertOnce.1 hother with rfl | hother
      · exact hafter
      · exact hfirst other hother

theorem pairwise_sortOnce (texts : List Text) : (sortOnce texts).Pairwise (· < ·) := by
  induction texts with
  | nil => exact .nil
  | cons text rest ih => exact pairwise_insertOnce ih

theorem sortOnce_eq_self {texts : List Text} (h : texts.Pairwise (· < ·)) :
    sortOnce texts = texts := by
  induction texts with
  | nil => rfl
  | cons text rest ih =>
    obtain ⟨hfirst, hrest⟩ := List.pairwise_cons.1 h
    rw [sortOnce, ih hrest]
    cases rest with
    | nil => rfl
    | cons next more => rw [insertOnce, if_pos (hfirst next List.mem_cons_self)]

end Sorted
end ApiStubs
