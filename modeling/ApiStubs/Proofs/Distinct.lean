import Mathlib.Data.List.Nodup

/-! Lists of which only the first of several equal items is left. -/

namespace ApiStubs.Distinct

variable {α β : Type}

theorem length_induction {motive : List α → Prop} (nil : motive [])
    (cons : ∀ a l, (∀ p : α → Bool, motive (l.filter p)) → motive (a :: l)) (l : List α) :
    motive l := by
  induction hlength : l.length using Nat.strongRecOn generalizing l with
  | ind n ih =>
    cases l with
    | nil => exact nil
    | cons a rest =>
      refine cons a rest fun p => ih _ ?_ _ rfl
      have hle := List.length_filter_le p rest
      rw [List.length_cons] at hlength
      omega

section EraseDups

variable [BEq α] [LawfulBEq α] [BEq β] [LawfulBEq β]

theorem nodup_eraseDups (l : List α) : l.eraseDups.Nodup := by
  induction l using length_induction with
  | nil => exact List.nodup_nil
  | cons a rest ih =>
    rw [List.eraseDups_cons, List.nodup_cons]
    refine ⟨?_, ih _⟩
    simp

theorem eraseDups_eq_self {l : List α} (h : l.Nodup) : l.eraseDups = l := by
  induction l with
  | nil => rfl
  | cons a rest ih =>
    obtain ⟨hmem, hrest⟩ := List.nodup_cons.1 h
    have hkeep : rest.filter (fun b => !b == a) = rest := by
      rw [List.filter_eq_self]
      intro b hb
      have hne : b ≠ a := fun heq => hmem (heq ▸ hb)
      simp [hne]
    rw [List.eraseDups_cons, hkeep, ih hrest]

theorem filter_eraseDups (p : α → Bool) (l : List α) :
    l.eraseDups.filter p = (l.filter p).eraseDups := by
  induction l using length_induction with
  | nil => rfl
  | cons a rest ih =>
    rw [List.eraseDups_cons]
    cases hp : p a with
    | true =>
      rw [List.filter_cons_of_pos hp, List.filter_cons_of_pos hp, List.eraseDups_cons, ih,
        List.filter_filter, List.filter_filter]
      simp only [Bool.and_comm]
    | false =>
      have hne : ∀ b ∈ rest, (p b && !b == a) = p b := by
        intro b _
        by_cases h : b = a <;> simp [h, hp]
      rw [List.filter_cons_of_neg (by simp [hp]), List.filter_cons_of_neg (by simp [hp]), ih,
        List.filter_filter, List.filter_congr hne]

/-- What equal items have in common can be compared before or after repetitions are left out. -/
theorem eraseDups_map_eraseDups (f : α → β) (l : List α) :
    (l.eraseDups.map f).eraseDups = (l.map f).eraseDups := by
  induction l using length_induction with
  | nil => rfl
  | cons a rest ih =>
    have hother : ∀ b ∈ rest, ((f b != f a) && !b == a) = (f b != f a) := by
      intro b _
      by_cases h : b = a <;> simp [h]
    rw [List.eraseDups_cons, List.map_cons, List.map_cons, List.eraseDups_cons,
      List.eraseDups_cons, List.filter_map, List.filter_map, filter_eraseDups, List.filter_filter]
    congr 1
    change (List.map f (List.filter (fun b => (f b != f a) && !b == a) rest).eraseDups).eraseDups
      = (List.map f (List.filter (fun b => f b != f a) rest)).eraseDups
    rw [List.filter_congr hother, ih]

theorem map_eraseDups {f : α → β} {l : List α} (h : ∀ a ∈ l, ∀ b ∈ l, f a = f b → a = b) :
    l.eraseDups.map f = (l.map f).eraseDups := by
  have hnodup : (l.eraseDups.map f).Nodup :=
    List.Nodup.map_on (fun a ha b hb => h a (List.mem_eraseDups.1 ha) b (List.mem_eraseDups.1 hb))
      (nodup_eraseDups l)
  rw [← eraseDups_map_eraseDups, eraseDups_eq_self hnodup]

end EraseDups

section FirstBy

variable [BEq β] {key : α → β} {l : List α} {a : α}

def firstBy (key : α → β) (l : List α) : List α := l.eraseDupsBy fun a b => key a == key b

theorem firstBy_cons (key : α → β) (a : α) (l : List α) :
    firstBy key (a :: l) = a :: firstBy key (l.filter fun b => key b != key a) := by
  rw [firstBy, List.eraseDupsBy_cons, firstBy]
  congr 3
  funext b
  cases hkey : key b == key a <;> simp [bne, hkey]

theorem map_firstBy (key : α → β) (l : List α) :
    (firstBy key l).map key = (l.map key).eraseDups := by
  induction l using length_induction with
  | nil => rfl
  | cons a rest ih =>
    rw [firstBy_cons, List.map_cons, List.map_cons, List.eraseDups_cons, ih, List.filter_map]
    rfl

theorem mem_of_mem_firstBy (h : a ∈ firstBy key l) : a ∈ l := by
  induction l using length_induction with
  | nil => exact h
  | cons b rest ih =>
    rw [firstBy_cons] at h
    rcases List.mem_cons.1 h with rfl | h
    · exact List.mem_cons_self
    · exact List.mem_cons_of_mem _ (List.mem_filter.1 (ih _ h)).1

theorem exists_mem_firstBy [LawfulBEq β] (h : a ∈ l) : ∃ b ∈ firstBy key l, key b = key a := by
  have hkey : key a ∈ (firstBy key l).map key := by
    rw [map_firstBy, List.mem_eraseDups]
    exact List.mem_map_of_mem h
  exact List.mem_map.1 hkey

theorem nodup_map_firstBy [LawfulBEq β] (key : α → β) (l : List α) :
    ((firstBy key l).map key).Nodup := map_firstBy key l ▸ nodup_eraseDups _

end FirstBy

end ApiStubs.Distinct
