import ApiStubs.Text.Blank
import Mathlib.Data.List.Basic
import Mathlib.Data.List.Infix
import Mathlib.Data.List.TakeDrop
import Mathlib.Data.List.TakeWhile

/-! Texts cut at a character. Cutting undoes joining, unless a piece has the character already, and
joining undoes cutting. -/

namespace ApiStubs.Text

variable {c : CodePoint} {text before after separator piece : Text} {pieces : List Text}

theorem splitWhen_eq_splitOnP (p : CodePoint → Bool) (text : Text) :
    splitWhen p text = text.splitOnP p := by
  induction text with
  | nil => rfl
  | cons c rest ih =>
    rw [splitWhen, List.splitOnP_cons_eq_if_modifyHead, ih]
    obtain ⟨piece, more, hrest⟩ := List.exists_cons_of_ne_nil (List.splitOnP_ne_nil p rest)
    rw [hrest]
    rfl

theorem splitWhen_eq_splitOn (c : CodePoint) (text : Text) :
    splitWhen (fun d => d == c) text = text.splitOn c := by
  rw [splitWhen_eq_splitOnP, List.splitOn_eq_splitOnP]

theorem splitWhen_append {p : CodePoint → Bool} (h : p c = true) (before after : Text) :
    splitWhen p (before ++ c :: after) = splitWhen p before ++ splitWhen p after := by
  simp only [splitWhen_eq_splitOnP, List.splitOnP_append_cons before after h]

theorem splitWhen_eq_singleton {p : CodePoint → Bool} (h : ∀ c ∈ text, p c = false) :
    splitWhen p text = [text] := by
  rw [splitWhen_eq_splitOnP, List.splitOnP_eq_singleton h]

theorem mem_of_mem_splitWhen {p : CodePoint → Bool} (h : piece ∈ splitWhen p text)
    (hc : c ∈ piece) : c ∈ text := by
  induction text generalizing piece with
  | nil =>
    cases List.mem_singleton.1 h
    exact hc
  | cons d rest ih =>
    rw [splitWhen] at h
    split_ifs at h
    · rcases List.mem_cons.1 h with rfl | h
      · cases hc
      · exact List.mem_cons_of_mem _ (ih h hc)
    · split at h
      · cases List.mem_singleton.1 h
        exact List.mem_cons.2 (.inl (List.mem_singleton.1 hc))
      · rename_i first more hrest
        rw [hrest] at ih
        rcases List.mem_cons.1 h with rfl | h
        · rcases List.mem_cons.1 hc with rfl | hc
          · exact List.mem_cons_self
          · exact List.mem_cons_of_mem _ (ih List.mem_cons_self hc)
        · exact List.mem_cons_of_mem _ (ih (List.mem_cons_of_mem _ h) hc)

section Join

theorem join_singleton (separator piece : Text) : join separator [piece] = piece :=
  List.intercalate_singleton

theorem join_cons (separator piece : Text) (h : pieces ≠ []) :
    join separator (piece :: pieces) = piece ++ (separator ++ join separator pieces) := by
  rw [join, List.intercalate_cons_of_ne_nil h, List.append_assoc]
  rfl

theorem join_append (separator : Text) {left right : List Text} (hleft : left ≠ [])
    (hright : right ≠ []) :
    join separator (left ++ right) = join separator left ++ (separator ++ join separator right) := by
  induction left with
  | nil => exact absurd rfl hleft
  | cons first rest ih =>
    rw [List.cons_append, join_cons _ _ (by simp [hright])]
    by_cases hrest : rest = []
    · rw [hrest, List.nil_append, join_singleton]
    · rw [ih hrest, join_cons _ _ hrest]
      simp only [List.append_assoc]

theorem join_concat (separator piece : Text) (h : pieces ≠ []) :
    join separator (pieces ++ [piece]) = join separator pieces ++ (separator ++ piece) := by
  rw [join_append separator h (List.cons_ne_nil _ _), join_singleton]

theorem map_join (d : CodePoint) (h : ∀ piece ∈ pieces, c ∉ piece) :
    (join [c] pieces).map (fun e => if e = c then d else e) = join [d] pieces := by
  have hkept (piece : Text) (hpiece : c ∉ piece) :
      piece.map (fun e => if e = c then d else e) = piece := by
    conv_rhs => rw [← List.map_id' piece]
    refine List.map_congr_left fun e he => if_neg ?_
    rintro rfl
    exact hpiece he
  induction pieces with
  | nil => rfl
  | cons first rest ih =>
    obtain ⟨hfirst, hothers⟩ := List.forall_mem_cons.1 h
    by_cases hrest : rest = []
    · rw [hrest, join_singleton, join_singleton, hkept first hfirst]
    · rw [join_cons _ _ hrest, join_cons _ _ hrest, List.map_append, List.map_append,
        hkept first hfirst, ih hothers]
      simp

theorem mem_of_mem_join (h : c ∈ join separator pieces) :
    c ∈ separator ∨ ∃ piece ∈ pieces, c ∈ piece := by
  induction pieces with
  | nil => cases h
  | cons first rest ih =>
    by_cases hrest : rest = []
    · rw [hrest, join_singleton] at h
      exact .inr ⟨first, List.mem_cons_self, h⟩
    · rw [join_cons _ _ hrest] at h
      rcases List.mem_append.1 h with h | h
      · exact .inr ⟨first, List.mem_cons_self, h⟩
      · rcases List.mem_append.1 h with h | h
        · exact .inl h
        · exact (ih h).imp_right fun ⟨piece, hpiece, hc⟩ =>
            ⟨piece, List.mem_cons_of_mem _ hpiece, hc⟩

theorem head?_join (separator : Text) (pieces : List Text) (h : piece ≠ []) :
    (join separator (piece :: pieces)).head? = piece.head? := by
  by_cases hpieces : pieces = []
  · rw [hpieces, join_singleton]
  · rw [join_cons _ _ hpieces, List.head?_append_of_ne_nil _ h]

theorem join_ne_nil (separator : Text) (pieces : List Text) (h : piece ≠ []) :
    join separator (piece :: pieces) ≠ [] := by
  intro hjoin
  have hhead := head?_join separator pieces h
  rw [hjoin] at hhead
  exact h (List.head?_eq_none_iff.1 hhead.symm)

theorem infix_join (separator : Text) (h : piece ∈ pieces) : piece <:+: join separator pieces := by
  induction pieces with
  | nil => cases h
  | cons first rest ih =>
    by_cases hrest : rest = []
    · subst hrest
      rw [List.mem_singleton.1 h, join_singleton]
    · rw [join_cons _ _ hrest]
      rcases List.mem_cons.1 h with rfl | h
      · exact (List.prefix_append piece _).isInfix
      · exact (ih h).trans ((List.suffix_append _ _).trans (List.suffix_append _ _)).isInfix

theorem infix_of_mem_splitOn (h : piece ∈ text.splitOn c) : piece <:+: text := by
  have hinfix := infix_join [c] h
  rwa [join, List.intercalate_splitOn] at hinfix

end Join

section LastCut

theorem exists_append_of_mem (h : c ∈ text) :
    ∃ before after, text = before ++ c :: after ∧ c ∉ after := by
  obtain ⟨after, before, heq, hafter⟩ := List.eq_append_cons_of_mem (List.mem_reverse.2 h)
  refine ⟨before.reverse, after.reverse, ?_, by simpa using hafter⟩
  rw [← List.reverse_inj, heq]
  simp

theorem bne_of_not_mem (h : c ∉ text) : ∀ d ∈ text, (d != c) = true :=
  fun _ hd => bne_iff_ne.2 fun heq => h (heq ▸ hd)

theorem cutAtLast?_append (before : Text) (h : c ∉ after) :
    cutAtLast? c (before ++ c :: after) = some (before, after) := by
  have hafter := bne_of_not_mem (mt List.mem_reverse.1 h)
  have hspan : (before ++ c :: after).reverse.span (· != c) =
      (after.reverse, c :: before.reverse) := by
    rw [List.reverse_append, List.reverse_cons, List.append_assoc, List.singleton_append,
      List.span_eq_takeWhile_dropWhile, List.takeWhile_append_of_pos hafter,
      List.dropWhile_append_of_pos hafter]
    simp
  rw [cutAtLast?, hspan]
  simp

theorem cutAtLast?_of_not_mem (h : c ∉ text) : cutAtLast? c text = none := by
  have hall := bne_of_not_mem (mt List.mem_reverse.1 h)
  rw [cutAtLast?, List.span_eq_takeWhile_dropWhile, List.dropWhile_eq_nil_iff.2 hall]

end LastCut

end ApiStubs.Text
