import ApiStubs.Proofs.TypeExpr.Reparse
import ApiStubs.Proofs.TypeExpr.Shortened

/-! The head of a text: what stands before its brackets, or all of it where nothing is in brackets.
The base name of a type can be told from the head of the text, both of the text that is read and of
the text that is written, and the head of a short text is short. -/

namespace ApiStubs.TypeExpr

def headOf (text : Text) : Text :=
  match cutBrackets? text with
  | some (name, _) => name
  | none => text

def IsBracketed (text : Text) : Prop := CodePoint.char '<' ∈ text ∧ text.getLast? = some (.char '>')

instance (text : Text) : Decidable (IsBracketed text) := inferInstanceAs (Decidable (_ ∧ _))

theorem headOf_of_none {text : Text} (h : cutBrackets? text = none) : headOf text = text := by
  simp [headOf, h]

theorem headOf_of_some {text name inner : Text} (h : cutBrackets? text = some (name, inner)) :
    headOf text = name := by
  simp [headOf, h]

theorem cutBrackets?_eq_none_iff {text : Text} : cutBrackets? text = none ↔ ¬IsBracketed text := by
  by_cases hopening : CodePoint.char '<' ∈ text
  · obtain ⟨name, rest, rfl, hname⟩ := List.eq_append_cons_of_mem hopening
    have hbefore : ∀ c ∈ name, c ≠ '<' := fun c hc heq => hname (heq ▸ hc)
    have hlast : (name ++ CodePoint.char '<' :: rest).getLast? = some (.char '>') ↔
        rest.getLast? = some (.char '>') := by
      cases rest <;> simp
    rw [cutBrackets?_append hbefore, IsBracketed, hlast]
    simp
  · have hnone : cutBrackets? text = none :=
      cutBrackets?_eq_none_of_not_mem fun c hc heq => hopening (heq ▸ hc)
    simp [hnone, IsBracketed, hopening]

theorem headOf_shorten (text : Text) : headOf (Lua.shorten text) = Lua.shorten (headOf text) := by
  rw [headOf, headOf, cutBrackets?_shorten]
  cases cutBrackets? text <;> rfl

theorem name_of_parse {text : Text} {t : TypeExpr} (h : parse text = .ok t) :
    t.name = Lua.typeName (headOf (Text.trim text)) := by
  refine parse_induction
    (motive := fun text t => t.name = Lua.typeName (headOf (Text.trim text))) ?_ ?_ h
  · intro text _ hcut _
    rw [headOf_of_none hcut, Lua.typeName_trim]
  · intro text name inner arguments heq hname _ _ _
    rw [headOf_of_some (cutBrackets?_eq_some_iff.2 ⟨heq, hname⟩)]

theorem headOf_render {text : Text} {t : TypeExpr} (h : parse text = .ok t) :
    headOf t.render = t.name := by
  refine parse_induction (motive := fun _ t => headOf t.render = t.name) ?_ ?_ h
  · intro text _ hcut _
    rw [render_eq, if_pos rfl, headOf_of_none (cutBrackets?_typeName hcut)]
  · intro text name inner arguments _ hname _ _ _
    have hopening := typeName_not_opening hname
    rw [render_eq]
    split_ifs with harguments
    · exact headOf_of_none (cutBrackets?_eq_none_of_not_mem hopening)
    · exact headOf_of_some (cutBrackets?_eq_some_iff.2 ⟨rfl, hopening⟩)

/-- Brackets stay in a text that is made a name as a whole, and none is in a head. -/
theorem typeName_eq_typeName_headOf_iff {text : Text} (htrim : Text.IsTrimmed text) :
    Lua.typeName text = Lua.typeName (headOf text) ↔ ¬IsBracketed text := by
  rw [← cutBrackets?_eq_none_iff]
  constructor
  · intro heq
    cases hcut : cutBrackets? text with
    | none => rfl
    | some cut =>
      obtain ⟨htext, hname⟩ := cutBrackets?_eq_some_iff.1 hcut
      rw [headOf_of_some hcut] at heq
      have hmem : CodePoint.char '<' ∈ text := by simp [htext]
      have hwhole : Lua.typeName text = text := by
        rcases Lua.typeName_cases text with h | ⟨-, hplain⟩
        · rw [h, Text.trim_eq_self htrim]
        · rw [Text.trim_eq_self htrim] at hplain
          exact absurd (hplain _ hmem) (by decide)
      rw [← hwhole, heq] at hmem
      exact absurd rfl (typeName_not_opening hname _ hmem)
  · intro hcut
    rw [headOf_of_none hcut]

end ApiStubs.TypeExpr
