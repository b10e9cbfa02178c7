import ApiStubs.Proofs.Lua.Naming
import ApiStubs.Proofs.Validation.Checked
import ApiStubs.TypeExpr.Text

/-! How text becomes a type: what the steps of reading give, and induction over the pieces. -/

namespace ApiStubs.TypeExpr

theorem make_eq_ok_iff {name : Text} {arguments : List TypeExpr} {t : TypeExpr} :
    make name arguments = .ok t ↔
      (Lua.typeName name).isTorn = false ∧ Lua.typeName name ≠ [] ∧
        t = ⟨Lua.typeName name, arguments⟩ := by
  rw [make, Checked.result_eq_ok_iff, Checked.seq_eq_ok_iff]
  constructor
  · rintro ⟨g, a, hg, ha, rfl⟩
    obtain ⟨s, hs, rfl⟩ := Checked.map_eq_ok_iff.1 hg
    obtain ⟨htorn, hne, rfl⟩ := Json.checkNonEmpty_eq_ok_iff.1 (Checked.under_eq_ok_iff.1 hs)
    rw [Checked.pure_eq_ok_iff] at ha
    exact ⟨htorn, hne, by rw [ha]⟩
  · rintro ⟨htorn, hne, rfl⟩
    have hname : checkName name = .ok (Lua.typeName name) :=
      Json.checkNonEmpty_eq_ok_iff.2 ⟨htorn, hne, rfl⟩
    exact ⟨_, _, Checked.map_eq_ok_iff.2 ⟨_, Checked.under_eq_ok_iff.2 hname, rfl⟩, rfl, rfl⟩

theorem parse_eq (text : Text) :
    parse text =
      if (Text.trim text).isEmpty then .error .emptyType
      else match cutBrackets? (Text.trim text) with
        | none => make (Text.trim text) []
        | some (name, inner) =>
            if (Text.trim name).isEmpty then .error (.noBaseName (Text.trim text))
            else (cutArguments inner).mapM parse >>= make (Text.trim name) := by
  rw [parse]
  have hattach (pieces : List Text) :
      (pieces.attach.mapM fun ⟨piece, _⟩ => parse piece) = pieces.mapM parse := by
    rw [List.mapM_subtype (g := parse) (fun _ _ => rfl), List.unattach_attach]
  split_ifs with hempty
  · rfl
  · split <;> simp_all

theorem cutBrackets?_eq_none_of_not_mem {text : Text} (h : ∀ c ∈ text, c ≠ '<') :
    cutBrackets? text = none := by
  have hnil : text.dropWhile isOutside = [] := by
    rw [List.dropWhile_eq_nil_iff]
    intro c hc
    simpa [isOutside] using h c hc
  rw [cutBrackets?, hnil]

theorem cutBrackets?_eq_some_iff {text name inner : Text} :
    cutBrackets? text = some (name, inner) ↔
      text = name ++ (.char '<' :: (inner ++ [.char '>'])) ∧ ∀ c ∈ name, c ≠ '<' := by
  constructor
  · intro h
    rw [cutBrackets?] at h
    split at h
    · rename_i c rest hdrop
      split_ifs at h with hlast
      obtain ⟨rfl, rfl⟩ := Prod.mk.inj (Option.some.inj h)
      have hc : c = '<' := by
        have hhead := List.head?_dropWhile_not isOutside text
        rw [hdrop] at hhead
        simpa [isOutside] using hhead
      have hrest : rest.dropLast ++ [.char '>'] = rest := List.dropLast_append_getLast? _ hlast
      refine ⟨?_, fun d hd => by simpa [isOutside] using List.mem_takeWhile_imp hd⟩
      rw [hrest, ← hc, ← hdrop, List.takeWhile_append_dropWhile]
    · cases h
  · rintro ⟨rfl, hname⟩
    have hall : ∀ c ∈ name, isOutside c = true := fun c hc => by
      simpa [isOutside] using hname c hc
    have hstop : isOutside (.char '<') = false := by decide
    rw [cutBrackets?, List.dropWhile_append_of_pos hall, List.takeWhile_append_of_pos hall]
    simp [hstop]

/-- Text is read either as a name as a whole or as a name with arguments, each read by itself. -/
theorem parse_induction {motive : Text → TypeExpr → Prop}
    (whole : ∀ text, Text.trim text ≠ [] → cutBrackets? (Text.trim text) = none →
      (Lua.typeName text).isTorn = false → motive text ⟨Lua.typeName text, []⟩)
    (applied : ∀ (text name inner : Text) (arguments : List TypeExpr),
      Text.trim text = name ++ (.char '<' :: (inner ++ [.char '>'])) → (∀ c ∈ name, c ≠ '<') →
      Text.trim name ≠ [] → (Lua.typeName name).isTorn = false →
      List.Forall₂ (fun piece t => parse piece = .ok t ∧ motive piece t)
        (cutArguments inner) arguments → motive text ⟨Lua.typeName name, arguments⟩)
    {text : Text} {t : TypeExpr} (h : parse text = .ok t) : motive text t := by
  -- pieces are shorter than the text that they are cut from
  induction hn : text.length using Nat.strong_induction_on generalizing text t with
  | _ n ih =>
    subst hn
    rw [parse_eq] at h
    split_ifs at h with hempty
    have hne : Text.trim text ≠ [] := by simpa using hempty
    split at h
    · rename_i hcut
      obtain ⟨htorn, -, rfl⟩ := make_eq_ok_iff.1 h
      rw [Lua.typeName_trim] at htorn ⊢
      exact whole text hne hcut htorn
    · rename_i name inner hcut
      split_ifs at h with hblank
      obtain ⟨arguments, hargs, hmake⟩ := bind_eq_ok_iff.1 h
      obtain ⟨htorn, -, rfl⟩ := make_eq_ok_iff.1 hmake
      obtain ⟨heq, hname⟩ := cutBrackets?_eq_some_iff.1 hcut
      rw [Lua.typeName_trim] at htorn ⊢
      refine applied text name inner arguments heq hname (by simpa using hblank) htorn ?_
      have hshort := length_lt_of_cutBrackets? hcut
      have htrim := Text.length_trim_le text
      refine List.Forall₂.imp (fun piece t hpiece => ?_)
        ((List.forall₂_and_left _ _).2 ⟨fun piece hmem => hmem, mapM_eq_ok_iff.1 hargs⟩)
      have hle := length_le_of_mem_cutArguments hpiece.1
      exact ⟨hpiece.2, ih piece.length (by omega) hpiece.2 rfl⟩

end ApiStubs.TypeExpr
