import ApiStubs.Exclusions
import ApiStubs.Proofs.Text.Sorted
import Mathlib.Data.List.Perm.Basic

/-! Exclusions under any checks. A pure list answers by membership alone. A consuming one grants
every name as often as the name is listed, to the first who ask, and what it has granted and what is
left are always the listed names. -/

namespace ApiStubs

namespace Sorted

theorem perm_insert (text : Text) (texts : List Text) :
    (insert text texts).Perm (text :: texts) := by
  induction texts with
  | nil => exact .refl _
  | cons first rest ih =>
    rw [insert]
    split_ifs
    · exact .refl _
    · exact (ih.cons first).trans (.swap text first rest)

theorem perm_sort (texts : List Text) : (sort texts).Perm texts := by
  induction texts with
  | nil => exact .refl _
  | cons text rest ih => exact (perm_insert text (sort rest)).trans (ih.cons text)

end Sorted

namespace Exclusions

variable {e : Exclusions} {name : Text} {checks : List Text}

def answers (e : Exclusions) : List Text → List (Text × Bool)
  | [] => []
  | name :: rest => (name, (e.check name).1) :: (e.check name).2.answers rest

def after (e : Exclusions) : List Text → Exclusions
  | [] => e
  | name :: rest => (e.check name).2.after rest

def answersTo (e : Exclusions) (name : Text) (checks : List Text) : List Bool :=
  ((e.answers checks).filter (·.1 == name)).map Prod.snd

def granted (e : Exclusions) (checks : List Text) : List Text :=
  ((e.answers checks).filter Prod.snd).map Prod.fst

theorem check_of_isPure (h : e.isPure = true) (className : Text) :
    e.check className = (e.lists className, e) := by
  have hconsuming : e.consuming = false := by simpa [isPure] using h
  simp [check, hconsuming]

theorem names_answers (e : Exclusions) (checks : List Text) :
    (e.answers checks).map Prod.fst = checks := by
  induction checks generalizing e with
  | nil => rfl
  | cons name rest ih => rw [answers, List.map_cons, ih]

theorem answersTo_cons (e : Exclusions) (name : Text) (first : Text) (rest : List Text) :
    e.answersTo name (first :: rest) =
      if first = name then (e.check first).1 :: (e.check first).2.answersTo name rest
      else (e.check first).2.answersTo name rest := by
  rw [answersTo, answers, List.filter_cons]
  by_cases h : first = name <;> simp [h, answersTo]

theorem granted_cons (e : Exclusions) (first : Text) (rest : List Text) :
    e.granted (first :: rest) =
      if (e.check first).1 then first :: (e.check first).2.granted rest
      else (e.check first).2.granted rest := by
  rw [granted, answers, List.filter_cons]
  cases (e.check first).1 <;> rfl

section Pure

variable (h : e.isPure = true)
include h

theorem answers_of_isPure (checks : List Text) :
    e.answers checks = checks.map fun name => (name, e.lists name) := by
  induction checks with
  | nil => rfl
  | cons name rest ih => rw [answers, check_of_isPure h, ih, List.map_cons]

theorem mem_granted_of_isPure : name ∈ e.granted checks ↔ name ∈ checks ∧ name ∈ e.names := by
  rw [granted, answers_of_isPure h]
  simp [lists]

theorem remaining_of_isPure (excluded : List Text) :
    e.remaining excluded =
      Sorted.sortOnce (e.names.filter fun name => !excluded.contains name) := by
  have hconsuming : ¬e.consuming = true := by simpa [isPure] using h
  rw [remaining, if_neg hconsuming]

theorem mem_remaining_of_isPure {excluded : List Text} :
    name ∈ e.remaining excluded ↔ name ∈ e.names ∧ name ∉ excluded := by
  rw [remaining_of_isPure h, Sorted.mem_sortOnce, List.mem_filter]
  simp

theorem after_of_isPure (checks : List Text) : e.after checks = e := by
  induction checks with
  | nil => rfl
  | cons name rest ih => rw [after, check_of_isPure h, ih]

end Pure

section Consuming

variable (h : e.consuming = true)
include h

theorem consuming_check (name : Text) : (e.check name).2.consuming = true := by
  rw [check, if_pos h]
  split_ifs <;> exact h

theorem consuming_after (checks : List Text) : (e.after checks).consuming = true := by
  induction checks generalizing e with
  | nil => exact h
  | cons name rest ih => exact ih (consuming_check h name)

theorem check_eq_true_iff : (e.check name).1 = true ↔ 0 < e.pending.count name := by
  rw [check, if_pos h, List.count_pos_iff]
  split_ifs with hmem <;> simpa using hmem

theorem pending_check (name : Text) : (e.check name).2.pending = e.pending.erase name := by
  rw [check, if_pos h]
  split_ifs with hmem
  · rfl
  · exact (List.erase_of_not_mem (by simpa using hmem)).symm

/-- A name is granted as long as entries of it are left, and then no more. -/
theorem answersTo_eq (name : Text) (checks : List Text) :
    e.answersTo name checks =
      List.replicate (min (checks.count name) (e.pending.count name)) true ++
        List.replicate (checks.count name - e.pending.count name) false := by
  induction checks generalizing e with
  | nil => simp [answersTo, answers]
  | cons first rest ih =>
    rw [answersTo_cons, ih (consuming_check h first), pending_check h, List.count_cons,
      List.count_erase]
    by_cases hfirst : first = name
    · subst hfirst
      simp only [if_pos, beq_self_eq_true]
      rcases Nat.eq_zero_or_pos (e.pending.count first) with hnone | hsome
      · have hanswer : (e.check first).1 = false := by
          rw [Bool.eq_false_iff, ne_eq, check_eq_true_iff h]
          omega
        rw [hanswer, hnone]
        simp [List.replicate_succ]
      · have hanswer : (e.check first).1 = true := (check_eq_true_iff h).2 hsome
        have hmin : min (rest.count first + 1) (e.pending.count first) =
            min (rest.count first) (e.pending.count first - 1) + 1 := by omega
        have hsub : rest.count first + 1 - e.pending.count first =
            rest.count first - (e.pending.count first - 1) := by omega
        rw [hanswer, hmin, hsub, List.replicate_succ, List.cons_append]
    · simp [hfirst]

theorem granted_append_pending (checks : List Text) :
    (e.granted checks ++ (e.after checks).pending).Perm e.pending := by
  induction checks generalizing e with
  | nil => exact .refl _
  | cons name rest ih =>
    have hrest := ih (consuming_check h name)
    rw [pending_check h] at hrest
    rw [granted_cons, after]
    split_ifs with hanswer
    · have hmem : name ∈ e.pending := List.count_pos_iff.1 ((check_eq_true_iff h).1 hanswer)
      exact (hrest.cons name).trans (List.perm_cons_erase hmem).symm
    · have hmem : name ∉ e.pending := fun hmem =>
        hanswer ((check_eq_true_iff h).2 (List.count_pos_iff.2 hmem))
      rwa [List.erase_of_not_mem hmem] at hrest

theorem granted_append_remaining (checks excluded : List Text) :
    (e.granted checks ++ (e.after checks).remaining excluded).Perm e.pending := by
  rw [remaining, if_pos (consuming_after h checks)]
  exact ((Sorted.perm_sort _).append_left _).trans (granted_append_pending h checks)

/-- Where there are entries enough for all checks, none of them is missed. -/
theorem answers_of_enough (henough : ∀ name ∈ e.pending, checks.count name ≤ e.pending.count name) :
    e.answers checks = checks.map fun name => (name, e.pending.contains name) := by
  have hanswer : ∀ a ∈ e.answers checks, a = (a.1, e.pending.contains a.1) := by
    rintro ⟨name, answer⟩ ha
    have hmem : answer ∈ e.answersTo name checks :=
      List.mem_map.2 ⟨(name, answer), List.mem_filter.2 ⟨ha, beq_self_eq_true name⟩, rfl⟩
    rw [answersTo_eq h] at hmem
    by_cases hlisted : name ∈ e.pending
    · rw [Nat.sub_eq_zero_of_le (henough name hlisted), List.replicate_zero,
        List.append_nil] at hmem
      rw [List.eq_of_mem_replicate hmem]
      simpa using hlisted
    · rw [List.count_eq_zero_of_not_mem hlisted, Nat.min_zero, List.replicate_zero,
        List.nil_append] at hmem
      rw [List.eq_of_mem_replicate hmem]
      simpa using hlisted
  calc e.answers checks
      = (e.answers checks).map fun a => (a.1, e.pending.contains a.1) :=
        (List.map_id _).symm.trans (List.map_congr_left hanswer)
    _ = ((e.answers checks).map Prod.fst).map fun name => (name, e.pending.contains name) := by
        rw [List.map_map]
        rfl
    _ = checks.map fun name => (name, e.pending.contains name) := by rw [names_answers]

end Consuming

end Exclusions
end ApiStubs
