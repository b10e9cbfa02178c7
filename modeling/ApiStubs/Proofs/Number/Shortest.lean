import ApiStubs.Number.Shortest
import Mathlib.Tactic.SplitIfs

/-! Texts of numbers: digits and a few marks, however they are laid out. -/

namespace ApiStubs.Binary64

def isOfNumber (c : Char) : Bool := c.isDigit || ['+', '-', '.', 'a', 'e', 'f', 'i', 'n'].contains c

theorem isOfNumber_zeros {count : Nat} {c : Char} (h : c ∈ zeros count) : isOfNumber c = true := by
  rw [List.eq_of_mem_replicate h]
  rfl

theorem isOfNumber_toDigits {n : Nat} {c : Char} (h : c ∈ Nat.toDigits 10 n) :
    isOfNumber c = true := by
  rw [isOfNumber, Nat.isDigit_of_mem_toDigits (by decide) (by decide) h]
  rfl

theorem isOfNumber_exponentText {exponent : Int} {c : Char} (h : c ∈ exponentText exponent) :
    isOfNumber c = true := by
  rw [exponentText, List.cons_append, List.mem_cons, List.mem_append] at h
  rcases h with rfl | h | h
  · split_ifs <;> rfl
  · exact isOfNumber_zeros h
  · exact isOfNumber_toDigits h

theorem isOfNumber_layOut {digits : List Char} {leading : Int}
    (hdigits : ∀ c ∈ digits, isOfNumber c = true) {c : Char} (h : c ∈ layOut digits leading) :
    isOfNumber c = true := by
  have hmark : isOfNumber '0' = true ∧ isOfNumber '.' = true ∧ isOfNumber 'e' = true := by decide
  have hafter {n : Nat} (h : c ∈ digits.drop n) : isOfNumber c = true :=
    hdigits c (List.mem_of_mem_drop h)
  rw [layOut] at h
  split_ifs at h with hplain hsmall
  · simp only [List.mem_cons, List.cons_append, List.mem_append] at h
    rcases h with rfl | rfl | h | h
    · exact hmark.1
    · exact hmark.2.1
    · exact isOfNumber_zeros h
    · exact hdigits c h
  · simp only [List.mem_cons, List.mem_append] at h
    rcases h with (h | h) | rfl | h
    · exact hdigits c (List.mem_of_mem_take h)
    · exact isOfNumber_zeros h
    · exact hmark.2.1
    · split_ifs at h
      · rw [List.mem_singleton.1 h]
        exact hmark.1
      · exact hafter h
  · simp only [List.mem_append, List.mem_cons] at h
    rcases h with (h | h) | rfl | h
    · exact hdigits c (List.mem_of_mem_take h)
    · split_ifs at h
      · cases h
      · rcases List.mem_cons.1 h with rfl | h
        · exact hmark.2.1
        · exact hafter h
    · exact hmark.2.2
    · exact isOfNumber_exponentText h

theorem isOfNumber_text {x : Binary64} {c : Char} (h : c ∈ x.text.toList) :
    isOfNumber c = true := by
  cases x with
  | nan => exact List.all_eq_true.1 (by decide : "nan".toList.all isOfNumber = true) c h
  | infinity negative =>
    have hall : (text (.infinity negative)).toList.all isOfNumber = true := by
      cases negative <;> decide
    exact List.all_eq_true.1 hall c h
  | finite negative mantissa exponent =>
    rw [text, String.toList_ofList, List.mem_append] at h
    rcases h with h | h
    · split_ifs at h
      · rw [List.mem_singleton.1 h]
        rfl
      · cases h
    · rw [magnitudeText] at h
      split_ifs at h
      · exact List.all_eq_true.1 (by decide : ['0', '.', '0'].all isOfNumber = true) c h
      · refine isOfNumber_layOut (fun c hc => ?_) h
        rw [dropTrailingZeros, List.mem_reverse] at hc
        exact isOfNumber_toDigits (List.mem_reverse.1 ((List.dropWhile_sublist _).subset hc))

end ApiStubs.Binary64
