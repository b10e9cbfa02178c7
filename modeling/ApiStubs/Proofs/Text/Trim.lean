import ApiStubs.Text.Blank
import Mathlib.Data.List.DropRight

/-! Trimmed texts. Trimming gives a text with no blank at either end, changes no such text, and
removes nothing but blanks. -/

namespace ApiStubs.Text

def IsTrimmed (text : Text) : Prop :=
  (∀ c ∈ text.head?, isBlank c = false) ∧ ∀ c ∈ text.getLast?, isBlank c = false

theorem trim_eq_rdropWhile (text : Text) :
    trim text = (text.dropWhile isBlank).rdropWhile isBlank := rfl

theorem isTrimmed_trim (text : Text) : IsTrimmed (trim text) := by
  rw [trim_eq_rdropWhile]
  constructor
  · intro c hc
    -- what is kept begins as the text without its leading blanks does
    obtain ⟨rest, hrest⟩ := List.rdropWhile_prefix isBlank (text.dropWhile isBlank)
    have hhead : c ∈ (text.dropWhile isBlank).head? := by
      rw [← hrest, List.head?_append]
      simp only [Option.mem_def] at hc ⊢
      rw [hc, Option.some_or]
    have hfirst := List.head?_dropWhile_not isBlank text
    simp only [Option.mem_def] at hhead
    rw [hhead] at hfirst
    simpa using hfirst
  · intro c hc
    obtain ⟨hne, rfl⟩ := List.mem_getLast?_eq_getLast hc
    simpa using List.rdropWhile_last_not isBlank (text.dropWhile isBlank) hne

theorem trim_eq_self {text : Text} (h : IsTrimmed text) : trim text = text := by
  have hhead : text.dropWhile isBlank = text := by
    cases text with
    | nil => rfl
    | cons c rest => exact List.dropWhile_cons_of_neg (by simp [h.1 c rfl])
  rw [trim_eq_rdropWhile, hhead, List.rdropWhile_eq_self_iff]
  intro hne
  simp [h.2 _ (List.getLast?_eq_some_getLast hne)]

theorem trim_eq_self_iff {text : Text} : trim text = text ↔ IsTrimmed text :=
  ⟨fun h => h ▸ isTrimmed_trim text, trim_eq_self⟩

@[simp] theorem trim_trim (text : Text) : trim (trim text) = trim text :=
  trim_eq_self (isTrimmed_trim text)

theorem eq_append_trim_append (text : Text) :
    ∃ before after, text = before ++ (trim text ++ after) ∧
      (∀ c ∈ before, isBlank c = true) ∧ ∀ c ∈ after, isBlank c = true := by
  refine ⟨text.takeWhile isBlank, (text.dropWhile isBlank).rtakeWhile isBlank, ?_, ?_, ?_⟩
  · rw [trim_eq_rdropWhile, List.rdropWhile_append_rtakeWhile, List.takeWhile_append_dropWhile]
  · exact fun c hc => List.mem_takeWhile_imp hc
  · exact fun c hc => List.mem_rtakeWhile_imp hc

theorem trim_eq_of_append {before text after : Text} (hbefore : ∀ c ∈ before, isBlank c = true)
    (hafter : ∀ c ∈ after, isBlank c = true) (h : IsTrimmed text) :
    trim (before ++ (text ++ after)) = text := by
  have htrim := trim_eq_self h
  rw [trim_eq_rdropWhile] at htrim ⊢
  rw [List.dropWhile_append_of_pos hbefore]
  cases text with
  | nil => rw [List.nil_append, List.dropWhile_eq_nil_iff.2 hafter, List.rdropWhile_nil]
  | cons c rest =>
    have hc : ¬isBlank c = true := by simp [h.1 c rfl]
    rw [List.dropWhile_cons_of_neg hc] at htrim
    rw [List.cons_append, List.dropWhile_cons_of_neg hc, ← List.cons_append, List.rdropWhile,
      List.reverse_append, List.dropWhile_append_of_pos (by simpa using hafter)]
    exact htrim

theorem mem_of_mem_trim {c : CodePoint} {text : Text} (h : c ∈ trim text) : c ∈ text := by
  obtain ⟨before, after, heq, -, -⟩ := eq_append_trim_append text
  rw [heq]
  simp [h]

theorem trim_cons_blank {c : CodePoint} (h : isBlank c = true) (text : Text) :
    trim (c :: text) = trim text := by
  simp only [trim_eq_rdropWhile, List.dropWhile_cons_of_pos h]

theorem isTrimmed_append_singleton {name : Text} {c : CodePoint} (hname : IsTrimmed name)
    (hne : name ≠ []) (middle : Text) (hc : isBlank c = false) :
    IsTrimmed (name ++ (middle ++ [c])) := by
  obtain ⟨d, rest, rfl⟩ := List.exists_cons_of_ne_nil hne
  refine ⟨fun b hb => hname.1 b (by simpa using hb), fun b hb => ?_⟩
  have hb : c = b := by
    rw [← List.append_assoc, List.getLast?_append] at hb
    simpa using hb
  exact hb ▸ hc

def IsBlank (text : Text) : Prop := ∀ c ∈ text, isBlank c = true

instance (text : Text) : Decidable text.IsBlank :=
  inferInstanceAs (Decidable (∀ c ∈ text, isBlank c = true))

theorem IsBlank.trim_eq {text : Text} (h : text.IsBlank) : trim text = [] := by
  have htrim := @trim_eq_of_append text [] [] h (List.forall_mem_nil _) ⟨nofun, nofun⟩
  rwa [List.append_nil, List.append_nil] at htrim

theorem IsBlank.append {a b : Text} (ha : a.IsBlank) (hb : b.IsBlank) : IsBlank (a ++ b) :=
  fun c hc => (List.mem_append.1 hc).elim (ha c) (hb c)

theorem trim_between {before after : Text} (hbefore : before.IsBlank) (hafter : after.IsBlank)
    (text : Text) : trim (before ++ (text ++ after)) = trim text := by
  obtain ⟨left, right, heq, hleft, hright⟩ := eq_append_trim_append text
  have htrim := trim_eq_of_append (hbefore.append hleft) (IsBlank.append hright hafter)
    (isTrimmed_trim text)
  conv_lhs => rw [heq]
  simpa only [List.append_assoc] using htrim

end ApiStubs.Text
