import ApiStubs.Proofs.Lua.Naming
import ApiStubs.TypeExpr.Text

/-! Bracket depth and the commas of a text. A cut at the commas of depth zero is found again from
the depths alone, which may also be negative. -/

namespace ApiStubs.TypeExpr
open Lua (isMark)

def depthThrough (depth : Int) (text : Text) : Int := text.foldl depthAfter depth

def commaDepths (depth : Int) : Text → List Int
  | [] => []
  | c :: rest => (if c = ',' then [depth] else []) ++ commaDepths (depthAfter depth c) rest

@[simp] theorem depthThrough_nil (depth : Int) : depthThrough depth [] = depth := rfl

@[simp] theorem depthThrough_cons (depth : Int) (c : CodePoint) (rest : Text) :
    depthThrough depth (c :: rest) = depthThrough (depthAfter depth c) rest := rfl

@[simp] theorem depthThrough_append (depth : Int) (a b : Text) :
    depthThrough depth (a ++ b) = depthThrough (depthThrough depth a) b :=
  List.foldl_append

@[simp] theorem commaDepths_nil (depth : Int) : commaDepths depth [] = [] := rfl

@[simp] theorem commaDepths_append (depth : Int) (a b : Text) :
    commaDepths depth (a ++ b) = commaDepths depth a ++ commaDepths (depthThrough depth a) b := by
  induction a generalizing depth with
  | nil => rfl
  | cons c rest ih => simp only [List.cons_append, commaDepths, ih, depthThrough_cons,
      List.append_assoc]

@[simp] theorem depthAfter_comma (depth : Int) : depthAfter depth ',' = depth := rfl

@[simp] theorem depthAfter_opening (depth : Int) : depthAfter depth '<' = depth + 1 := rfl

@[simp] theorem depthAfter_closing (depth : Int) : depthAfter depth '>' = depth - 1 := rfl

theorem depthAfter_add (depth shift : Int) (c : CodePoint) :
    depthAfter (depth + shift) c = depthAfter depth c + shift := by
  simp only [depthAfter]
  split_ifs <;> omega

theorem depthThrough_add (depth shift : Int) (text : Text) :
    depthThrough (depth + shift) text = depthThrough depth text + shift := by
  induction text generalizing depth with
  | nil => rfl
  | cons c rest ih => rw [depthThrough_cons, depthAfter_add, ih, depthThrough_cons]

theorem commaDepths_add (depth shift : Int) (text : Text) :
    commaDepths (depth + shift) text = (commaDepths depth text).map (· + shift) := by
  induction text generalizing depth with
  | nil => rfl
  | cons c rest ih =>
    rw [commaDepths, commaDepths, depthAfter_add, ih, List.map_append]
    split_ifs <;> rfl

theorem depthThrough_eq_add (depth : Int) (text : Text) :
    depthThrough depth text = depthThrough 0 text + depth := by
  rw [← depthThrough_add, Int.zero_add]

theorem mem_commaDepths_iff {depth k : Int} {text : Text} :
    k ∈ commaDepths depth text ↔ k - depth ∈ commaDepths 0 text := by
  have h := commaDepths_add 0 depth text
  rw [Int.zero_add] at h
  rw [h, List.mem_map]
  constructor
  · rintro ⟨j, hj, rfl⟩
    simpa using hj
  · exact fun hk => ⟨k - depth, hk, by omega⟩

section Plain

theorem depthAfter_of_not_isMark {c : CodePoint} (h : isMark c = false) (depth : Int) :
    depthAfter depth c = depth := by
  simp only [isMark, Bool.or_eq_false_iff, beq_eq_false_iff_ne] at h
  rw [depthAfter, if_neg h.1.1, if_neg h.1.2]

variable {text : Text} (hplain : ∀ c ∈ text, isMark c = false)
include hplain

theorem depthThrough_plain (depth : Int) : depthThrough depth text = depth := by
  induction text with
  | nil => rfl
  | cons c rest ih =>
    rw [depthThrough_cons, depthAfter_of_not_isMark (hplain c (by simp))]
    exact ih fun d hd => hplain d (by simp [hd])

theorem commaDepths_plain (depth : Int) : commaDepths depth text = [] := by
  induction text with
  | nil => rfl
  | cons c rest ih =>
    have hc := hplain c (by simp)
    have hcomma : c ≠ ',' := by
      rintro rfl
      exact absurd hc (by decide)
    rw [commaDepths, if_neg hcomma, depthAfter_of_not_isMark hc, List.nil_append]
    exact ih fun d hd => hplain d (by simp [hd])

end Plain

theorem not_isMark_of_isBlank {c : CodePoint} (h : Text.isBlank c = true) : isMark c = false := by
  by_contra hmark
  rcases Lua.isMark_iff.1 (Bool.of_not_eq_false hmark) with rfl | rfl | rfl <;>
    exact absurd h (by decide)

theorem depthThrough_trim (depth : Int) (text : Text) :
    depthThrough depth (Text.trim text) = depthThrough depth text := by
  obtain ⟨before, after, heq, hbefore, hafter⟩ := Text.eq_append_trim_append text
  have hb := depthThrough_plain (fun c hc => not_isMark_of_isBlank (hbefore c hc))
  have ha := depthThrough_plain (fun c hc => not_isMark_of_isBlank (hafter c hc))
  conv_rhs => rw [heq]
  rw [depthThrough_append, depthThrough_append, hb, ha]

theorem commaDepths_trim (depth : Int) (text : Text) :
    commaDepths depth (Text.trim text) = commaDepths depth text := by
  obtain ⟨before, after, heq, hbefore, hafter⟩ := Text.eq_append_trim_append text
  have hbefore' := fun c hc => not_isMark_of_isBlank (hbefore c hc)
  have hb := depthThrough_plain hbefore'
  have hcb := commaDepths_plain hbefore'
  have hca := commaDepths_plain (fun c hc => not_isMark_of_isBlank (hafter c hc))
  conv_rhs => rw [heq]
  rw [commaDepths_append, commaDepths_append, hcb, hca, hb, List.nil_append, List.append_nil]

theorem cutTopLevel_of_not_mem {depth : Int} {text : Text} (h : 0 ∉ commaDepths depth text) :
    cutTopLevel depth text = [text] := by
  induction text generalizing depth with
  | nil => rfl
  | cons c rest ih =>
    simp only [commaDepths, List.mem_append, not_or] at h
    have hcut : ¬(c = ',' ∧ depthAfter depth c = 0) := by
      rintro ⟨rfl, hzero⟩
      rw [depthAfter_comma] at hzero
      exact h.1 (by simp [hzero])
    rw [cutTopLevel, if_neg hcut, ih h.2]

theorem cutTopLevel_ne_nil (depth : Int) (text : Text) : cutTopLevel depth text ≠ [] := by
  cases text with
  | nil => exact List.cons_ne_nil _ _
  | cons c rest =>
    rw [cutTopLevel]
    split
    · exact List.cons_ne_nil _ _
    · split <;> exact List.cons_ne_nil _ _

/-- A comma of depth zero is a cut, wherever else the text is cut. -/
theorem cutTopLevel_append {depth : Int} {before : Text} (h : depthThrough depth before = 0)
    (after : Text) :
    cutTopLevel depth (before ++ .char ',' :: after) =
      cutTopLevel depth before ++ cutTopLevel 0 after := by
  induction before generalizing depth with
  | nil =>
    rw [depthThrough_nil] at h
    subst h
    simp [cutTopLevel]
  | cons c tail ih =>
    obtain ⟨piece, more, hpieces⟩ :=
      List.exists_cons_of_ne_nil (cutTopLevel_ne_nil (depthAfter depth c) tail)
    rw [List.cons_append, cutTopLevel, cutTopLevel, ih h, hpieces]
    split <;> rfl

theorem cutTopLevel_append_comma {depth : Int} {first : Text} (h : 0 ∉ commaDepths depth first)
    (hdepth : depthThrough depth first = 0) (rest : Text) :
    cutTopLevel depth (first ++ .char ',' :: rest) = first :: cutTopLevel 0 rest := by
  rw [cutTopLevel_append hdepth, cutTopLevel_of_not_mem h, List.singleton_append]

theorem exists_first_cut {depth : Int} {text : Text} (h : 0 ∈ commaDepths depth text) :
    ∃ first rest, text = first ++ .char ',' :: rest ∧ 0 ∉ commaDepths depth first ∧
      depthThrough depth first = 0 := by
  induction text generalizing depth with
  | nil => simp at h
  | cons c tail ih =>
    by_cases hcut : c = ',' ∧ depth = 0
    · obtain ⟨rfl, rfl⟩ := hcut
      exact ⟨[], tail, rfl, by simp, rfl⟩
    · have hhere : 0 ∉ (if c = ',' then [depth] else []) := by
        split_ifs with hc
        · simpa using fun hzero => hcut ⟨hc, hzero.symm⟩
        · simp
      have hlater : 0 ∈ commaDepths (depthAfter depth c) tail := by
        rw [commaDepths, List.mem_append] at h
        exact h.resolve_left hhere
      obtain ⟨first, rest, rfl, hnone, hdepth⟩ := ih hlater
      refine ⟨c :: first, rest, rfl, ?_, hdepth⟩
      rw [commaDepths, List.mem_append, not_or]
      exact ⟨hhere, hnone⟩

/-- Either nothing of the text is cut, or its first piece comes off. -/
theorem cut_induction {motive : Text → Prop}
    (whole : ∀ text, 0 ∉ commaDepths 0 text → motive text)
    (cut : ∀ first rest, 0 ∉ commaDepths 0 first → depthThrough 0 first = 0 → motive rest →
      motive (first ++ .char ',' :: rest)) (text : Text) : motive text := by
  induction hn : text.length using Nat.strong_induction_on generalizing text with
  | _ n ih =>
    subst hn
    by_cases hcut : 0 ∈ commaDepths 0 text
    · obtain ⟨first, rest, rfl, hnone, hdepth⟩ := exists_first_cut hcut
      exact cut first rest hnone hdepth (ih rest.length (by simp; omega) rest rfl)
    · exact whole text hcut

theorem cutArguments_of_not_mem {text : Text} (h : 0 ∉ commaDepths 0 text) :
    cutArguments text = if Text.trim text = [] then [] else [Text.trim text] := by
  rw [cutArguments, cutTopLevel_of_not_mem h]
  split_ifs with htrim
  · simp [htrim]
  · simp [htrim]

theorem cutArguments_append_comma {before : Text} (h : depthThrough 0 before = 0)
    (after : Text) :
    cutArguments (before ++ .char ',' :: after) = cutArguments before ++ cutArguments after := by
  rw [cutArguments, cutTopLevel_append h, List.map_append, List.filter_append]
  rfl

theorem cutArguments_cons_blank {c : CodePoint} (h : Text.isBlank c = true) (text : Text) :
    cutArguments (c :: text) = cutArguments text := by
  have hmark := not_isMark_of_isBlank h
  have hcomma : c ≠ ',' := by
    rintro rfl
    exact absurd hmark (by decide)
  obtain ⟨piece, more, hpieces⟩ := List.exists_cons_of_ne_nil (cutTopLevel_ne_nil 0 text)
  rw [cutArguments, cutTopLevel, if_neg (fun hc => hcomma hc.1), depthAfter_of_not_isMark hmark,
    cutArguments, hpieces]
  simp only [List.map_cons, Text.trim_cons_blank h]

end ApiStubs.TypeExpr
