import ApiStubs.Proofs.TypeExpr.Reparse
import ApiStubs.TypeExpr.Record

/-! Types of any depth, each with one argument. Every one of them is read from its text, although
not every one can be written as a record. -/

namespace ApiStubs.TypeExpr

def nested : Nat → TypeExpr
  | 0 => ⟨"A", []⟩
  | n + 1 => ⟨"A", [nested n]⟩

def nestedText : Nat → Text → Text
  | 0, after => .char 'A' :: after
  | n + 1, after => .char 'A' :: .char '<' :: nestedText n (.char '>' :: after)

theorem name_nested (n : Nat) : (nested n).name = "A" := by cases n <;> rfl

theorem depth_nested (n : Nat) : (nested n).depth = n + 1 := by
  induction n with
  | zero => rfl
  | succ n ih => rw [nested, depth, depthOfAll, depthOfAll, ih, Nat.max_zero]

theorem render_nested_succ (n : Nat) :
    (nested (n + 1)).render = .char 'A' :: .char '<' :: ((nested n).render ++ [.char '>']) := by
  rw [nested, render_eq, if_neg (List.cons_ne_nil _ _), renderAll]
  rfl

theorem render_nested_append (n : Nat) (after : Text) :
    (nested n).render ++ after = nestedText n after := by
  induction n generalizing after with
  | zero => rfl
  | succ n ih =>
    rw [render_nested_succ, nestedText, ← ih]
    simp

theorem commaDepths_nested (n : Nat) (depth : Int) : commaDepths depth (nested n).render = [] := by
  induction n generalizing depth with
  | zero => rfl
  | succ n ih => simp [render_nested_succ, commaDepths, ih]

theorem parse_nested (n : Nat) : parse (nested n).render = .ok (nested n) := by
  have htrim : Text.IsTrimmed "A" := Text.trim_eq_self_iff.1 (by decide)
  have hsafe : Lua.typeName "A" = "A" := by decide +kernel
  induction n with
  | zero => exact parse_of_cut_eq_none htrim (by decide) (by decide) hsafe (by decide)
  | succ n ih =>
    have hone := (settled_of_parse ih).cutArguments_render (by simp [commaDepths_nested])
    rw [render_nested_succ]
    refine @parse_of_cut_eq_some "A" _ _ htrim (by decide) (by decide) hsafe (by decide) ?_
    rw [hone, List.mapM_cons, ih]
    rfl

theorem parse_nestedText (n : Nat) : parse (nestedText n []) = .ok (nested n) := by
  rw [← render_nested_append, List.append_nil, parse_nested]

end ApiStubs.TypeExpr
