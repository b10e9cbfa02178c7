import ApiStubs.Proofs.Lua.Naming

/-! The two rules for safe names together. A name that went through both is safe for both: the
underscore before a reserved word makes no built-in type, and lower-casing comes first, so that a
word it brings about is seen. The safe names are just those that are left as they are. -/

namespace ApiStubs

namespace Lua

variable {name text word : Text}

theorem typeName_underscore :
    ∀ word ∈ reservedWords, typeName ("_" ++ word) = "_" ++ word := by decide +kernel

theorem identifier_cases (text : Text) :
    identifier text = Text.trim text ∨
      Text.trim text ∈ reservedWords ∧ identifier text = "_" ++ Text.trim text := by
  rw [identifier]
  split_ifs with h
  · exact .inr ⟨isReserved_iff.1 h, rfl⟩
  · exact .inl rfl

theorem lower_typeName (text : Text) :
    Text.lower (typeName text) = Text.lower (Text.trim text) := by
  rw [typeName]
  split_ifs
  · exact Text.lower_lower (Text.trim text)
  · rfl

theorem typeName_of_lower_trim (h : Text.lower (Text.trim text) ∈ builtInTypes) :
    typeName text = Text.lower (Text.trim text) := if_pos (isBuiltIn_iff.2 h)

theorem typeName_identifier (h : typeName name = name) :
    typeName (identifier name) = identifier name := by
  have htrim : Text.trim name = name := (typeName_eq_self_iff.1 h).1
  rcases identifier_cases name with hname | ⟨hmem, hname⟩
  · rw [hname, htrim, h]
  · rw [hname]
    exact typeName_underscore _ hmem

theorem typeName_anyName (text : Text) : typeName (anyName text) = anyName text :=
  typeName_identifier (typeName_typeName text)

theorem isIdentifier_anyName (text : Text) : IsIdentifier (anyName text) :=
  isIdentifier_identifier (typeName text)

theorem anyName_eq_self_iff : anyName name = name ↔ typeName name = name ∧ IsIdentifier name := by
  constructor
  · intro h
    exact ⟨h ▸ typeName_anyName name, h ▸ isIdentifier_anyName name⟩
  · rintro ⟨htype, hname⟩
    rw [anyName, htype, identifier_of_isIdentifier hname]

theorem anyName_anyName (text : Text) : anyName (anyName text) = anyName text :=
  anyName_eq_self_iff.2 ⟨typeName_anyName text, isIdentifier_anyName text⟩

theorem anyName_of_reserved_builtIn (hreserved : word ∈ reservedWords)
    (hbuiltIn : word ∈ builtInTypes) (h : Text.lower (Text.trim text) = word) :
    anyName text = "_" ++ word := by
  have hname : typeName text = word := (typeName_of_lower_trim (h ▸ hbuiltIn)).trans h
  have htrim : Text.trim word = word := (builtInTypes_fixed word hbuiltIn).2.1
  rw [anyName, hname, identifier, htrim, if_pos (isReserved_iff.2 hreserved)]

end Lua

open Lua

/-- Made safe again, a safe name stays what it is. An identifier, and a name that may be either, is
trimmed and no reserved word; a type name is trimmed and, if it is a built-in type in any letter
case, in lower case; and after both rules each of them has nothing left to do. -/
theorem safe_names_are_fixed (text : Text) :
    typeName (typeName text) = typeName text ∧
      identifier (identifier text) = identifier text ∧
      anyName (anyName text) = anyName text ∧
      IsIdentifier (identifier text) ∧ IsIdentifier (anyName text) ∧
      Text.trim (typeName text) = typeName text ∧
      (Text.lower (typeName text) ∈ builtInTypes →
        typeName text = Text.lower (typeName text)) ∧
      typeName (anyName text) = anyName text ∧ identifier (anyName text) = anyName text ∧
      (∀ word ∈ reservedWords, word ∈ builtInTypes → Text.lower (Text.trim text) = word →
        anyName text = "_" ++ word) ∧
      -- only letter case and an underscore tell a safe name from the trimmed text
      Text.lower (typeName text) = Text.lower (Text.trim text) ∧
      (identifier text = Text.trim text ∨ identifier text = "_" ++ Text.trim text) ∧
      (typeName text = text ↔
        Text.trim text = text ∧ (Text.lower text ∈ builtInTypes → Text.lower text = text)) ∧
      (identifier text = text ↔ IsIdentifier text) ∧
      (anyName text = text ↔ typeName text = text ∧ IsIdentifier text) := by
  have htype := typeName_eq_self_iff.1 (typeName_typeName text)
  refine ⟨typeName_typeName text, identifier_identifier text, anyName_anyName text,
    isIdentifier_identifier text, isIdentifier_anyName text, htype.1,
    fun hmem => (htype.2 hmem).symm, typeName_anyName text,
    identifier_of_isIdentifier (isIdentifier_anyName text), fun word hreserved hbuiltIn hlower => ?_,
    lower_typeName text, (identifier_cases text).imp_right And.right, typeName_eq_self_iff,
    identifier_eq_self_iff, anyName_eq_self_iff⟩
  exact anyName_of_reserved_builtIn hreserved hbuiltIn hlower

/-- A word that is reserved and a built-in type, in capitals and between blanks. -/
theorem safe_names_are_fixed_nil :
    let text : Text := "\u2003 NIL\t"
    let word : Text := "nil"
    word ∈ reservedWords ∧ word ∈ builtInTypes ∧ Text.lower (Text.trim text) = word ∧
      typeName text = word ∧ Text.lower (typeName text) ∈ builtInTypes ∧
      typeName text = Text.lower (typeName text) ∧ anyName text = "_nil" ∧
      anyName "_nil" = "_nil" := by
  intro text word
  have hreserved : word ∈ reservedWords := by decide
  have hbuiltIn : word ∈ builtInTypes := by decide
  have hlower : Text.lower (Text.trim text) = word := by decide +kernel
  have htype : typeName text = word := by decide +kernel
  have hmem : Text.lower (typeName text) ∈ builtInTypes := by decide +kernel
  obtain ⟨-, -, hfixed, -, -, -, hcase, -, -, hboth, -⟩ := safe_names_are_fixed text
  have hany : anyName text = "_nil" := hboth word hreserved hbuiltIn hlower
  rw [hany] at hfixed
  exact ⟨hreserved, hbuiltIn, hlower, htype, hmem, hcase hmem, hany, hfixed⟩

end ApiStubs
