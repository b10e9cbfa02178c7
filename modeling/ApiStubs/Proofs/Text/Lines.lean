import ApiStubs.Text.Lines
import Mathlib.Data.List.Basic

/-! The ends of lines in a file. A line that has none of them is left as it is when the newlines are
made one, and a carriage return becomes a line feed, which may take a line feed behind it along. -/

namespace ApiStubs.Text

variable {c : CodePoint} {line text : Text}

def endsLine (c : CodePoint) : Bool := c == .char '\r' || isLineBoundary c

def OnLine (text : Text) : Prop := ∀ c ∈ text, endsLine c = false

instance (text : Text) : Decidable text.OnLine :=
  inferInstanceAs (Decidable (∀ c ∈ text, endsLine c = false))

theorem OnLine.append {a b : Text} (ha : a.OnLine) (hb : b.OnLine) : OnLine (a ++ b) :=
  List.forall_mem_append.2 ⟨ha, hb⟩

theorem OnLine.subset {part : Text} (h : text.OnLine) (hsub : part ⊆ text) : part.OnLine :=
  fun c hc => h c (hsub hc)

theorem OnLine.not_isLineBoundary (h : text.OnLine) : ∀ c ∈ text, isLineBoundary c = false :=
  fun c hc => (Bool.or_eq_false_iff.1 (h c hc)).2

theorem OnLine.return_not_mem (h : text.OnLine) : .char '\r' ∉ text :=
  fun hmem => absurd (h _ hmem) (by decide)

theorem unifyNewlines_cons (h : c ≠ .char '\r') (rest : Text) :
    unifyNewlines (c :: rest) = c :: unifyNewlines rest := by
  rw [unifyNewlines, if_neg h]
  rintro more rfl
  exact absurd rfl h

theorem unifyNewlines_append (h : .char '\r' ∉ line) (rest : Text) :
    unifyNewlines (line ++ rest) = line ++ unifyNewlines rest := by
  induction line with
  | nil => rfl
  | cons c tail ih =>
    simp only [List.mem_cons, not_or] at h
    rw [List.cons_append, unifyNewlines_cons (Ne.symm h.1), ih h.2, List.cons_append]

theorem unifyNewlines_of_not_mem (h : .char '\r' ∉ text) : unifyNewlines text = text := by
  simpa [unifyNewlines] using unifyNewlines_append h []

theorem unifyNewlines_return (rest : Text) :
    ∃ more, unifyNewlines (.char '\r' :: rest) = .char '\n' :: more ∧
      (unifyNewlines rest = more ∨ unifyNewlines rest = .char '\n' :: more) := by
  by_cases h : ∃ more, rest = .char '\n' :: more
  · obtain ⟨more, rfl⟩ := h
    exact ⟨unifyNewlines more, rfl, .inr (unifyNewlines_cons (by decide) more)⟩
  · refine ⟨unifyNewlines rest, ?_, .inl rfl⟩
    rw [unifyNewlines]
    · rfl
    · exact fun more _ hrest => h ⟨more, hrest⟩

theorem not_isTorn_unifyNewlines (h : text.isTorn = false) :
    (unifyNewlines text).isTorn = false := by
  fun_induction unifyNewlines text with
  | case1 => rfl
  | case2 rest ih => exact ih h
  | case3 c rest _ ih =>
    obtain ⟨hc, hrest⟩ := Bool.or_eq_false_iff.1 h
    refine Bool.or_eq_false_iff.2 ⟨?_, ih hrest⟩
    split_ifs
    · rfl
    · exact hc

end ApiStubs.Text
