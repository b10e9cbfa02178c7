import ApiStubs.Lua.Naming
import ApiStubs.Proofs.Text.Lower

/-! Safe names. Making a name safe a second time changes nothing, a safe type name is trimmed, and
only a name without brackets and commas is ever put into lower case. -/

namespace ApiStubs.Lua

def isMark (c : CodePoint) : Bool := c == '<' || c == '>' || c == ','

theorem isMark_iff {c : CodePoint} : isMark c = true ↔ c = '<' ∨ c = '>' ∨ c = ',' := by
  simp [isMark, or_assoc]

theorem builtInTypes_fixed :
    ∀ name ∈ builtInTypes, Text.lower name = name ∧ Text.trim name = name ∧ name ≠ [] ∧
      Text.isTorn name = false ∧ name.any isMark = false := by decide

theorem reservedWords_fixed :
    ∀ word ∈ reservedWords, Text.trim ("_" ++ word) = "_" ++ word ∧
      isReserved ("_" ++ word) = false := by decide

theorem isBuiltIn_iff {name : Text} : isBuiltIn name = true ↔ Text.lower name ∈ builtInTypes := by
  simp [isBuiltIn]

theorem isReserved_iff {name : Text} : isReserved name = true ↔ name ∈ reservedWords := by
  simp [isReserved]

theorem isBuiltIn_lower (a : Text) : isBuiltIn (Text.lower a) = isBuiltIn a := by
  simp only [isBuiltIn, Text.lower_lower]

/-- No built-in type in any letter case has a character that no built-in type has. -/
theorem not_mem_of_isBuiltIn {name : Text} (h : isBuiltIn name = true) {c : CodePoint}
    (hc : Text.isLower c = true) (hnone : ∀ word ∈ builtInTypes, c ∉ word) : c ∉ name :=
  fun hmem => hnone _ (isBuiltIn_iff.1 h) (Text.mem_lowerAfter hc [] name hmem)

theorem not_isMark_of_isBuiltIn {name : Text} (h : isBuiltIn name = true) :
    ∀ c ∈ name, isMark c = false := by
  intro c hc
  by_contra hmark
  have hlower : Text.isLower c = true := by
    rcases isMark_iff.1 (Bool.of_not_eq_false hmark) with rfl | rfl | rfl <;> decide
  refine not_mem_of_isBuiltIn h hlower (fun word hword hmem => ?_) hc
  have hfree := (builtInTypes_fixed word hword).2.2.2.2
  rw [List.any_eq_false] at hfree
  exact hfree c hmem (Bool.of_not_eq_false hmark)

theorem typeName_cases (text : Text) :
    typeName text = Text.trim text ∨
      typeName text ∈ builtInTypes ∧ ∀ c ∈ Text.trim text, isMark c = false := by
  by_cases h : isBuiltIn (Text.trim text) = true
  · right
    rw [typeName, if_pos h]
    exact ⟨isBuiltIn_iff.1 h, not_isMark_of_isBuiltIn h⟩
  · left
    rw [typeName, if_neg h]

theorem typeName_of_mem_builtInTypes {name : Text} (h : name ∈ builtInTypes) :
    typeName name = name := by
  obtain ⟨hlower, htrim, -⟩ := builtInTypes_fixed name h
  rw [typeName, htrim, hlower, ite_self]

theorem isTrimmed_typeName (text : Text) : Text.IsTrimmed (typeName text) := by
  rcases typeName_cases text with h | ⟨h, -⟩
  · exact h ▸ Text.isTrimmed_trim text
  · exact Text.trim_eq_self_iff.1 (builtInTypes_fixed _ h).2.1

theorem typeName_trim (text : Text) : typeName (Text.trim text) = typeName text := by
  simp only [typeName, Text.trim_trim]

theorem typeName_typeName (text : Text) : typeName (typeName text) = typeName text := by
  rcases typeName_cases text with h | ⟨h, -⟩
  · rw [h, typeName_trim, h]
  · exact typeName_of_mem_builtInTypes h

theorem typeName_of_isTrimmed {a : Text} (h : Text.IsTrimmed a) :
    typeName a = if isBuiltIn a then Text.lower a else a := by
  simp only [typeName, Text.trim_eq_self h]

theorem isBuiltIn_typeName {a : Text} (h : Text.IsTrimmed a) :
    isBuiltIn (typeName a) = isBuiltIn a := by
  rw [typeName_of_isTrimmed h]
  split_ifs
  · exact isBuiltIn_lower a
  · rfl

theorem typeName_eq_nil_iff {text : Text} : typeName text = [] ↔ Text.trim text = [] := by
  constructor
  · intro h
    rcases typeName_cases text with htrim | ⟨hmem, -⟩
    · rw [← htrim, h]
    · exact absurd h (builtInTypes_fixed _ hmem).2.2.1
  · intro h
    rw [← typeName_trim, h]
    decide

theorem isLower_of_isSurrogate {c : CodePoint} (h : c.isSurrogate = true) :
    Text.isLower c = true ∧ Text.isBlank c = false := by
  have hruns : ∀ run ∈ Text.capitalsAndBlanks,
      run.last < CodePoint.firstSurrogate ∨ CodePoint.firstSurrogate + 0x800 ≤ run.first := by
    decide +kernel
  refine Text.isLower_of_not_covered fun run hrun => ?_
  cases c with
  | char c => cases h
  | surrogate offset =>
    have hoffset := offset.isLt
    by_contra hcovers
    have hbounds : run.first ≤ CodePoint.firstSurrogate + offset ∧
        CodePoint.firstSurrogate + offset ≤ run.last := by
      simp only [Text.CaseRun.covers, Bool.not_eq_false, Bool.and_eq_true,
        decide_eq_true_eq] at hcovers
      exact hcovers.1
    have hrun := hruns run hrun
    omega

theorem isTorn_trim (text : Text) : Text.isTorn (Text.trim text) = Text.isTorn text := by
  obtain ⟨before, after, heq, hbefore, hafter⟩ := Text.eq_append_trim_append text
  have hblank : ∀ piece : Text, (∀ c ∈ piece, Text.isBlank c = true) → piece.isTorn = false := by
    refine fun piece hpiece => List.any_eq_false.2 fun c hc hsurrogate => ?_
    have hnot := (isLower_of_isSurrogate hsurrogate).2
    rw [hpiece c hc] at hnot
    cases hnot
  have hparts := congrArg Text.isTorn heq
  simp only [Text.isTorn, List.any_append] at hparts hblank ⊢
  rw [hparts, hblank before hbefore, hblank after hafter, Bool.false_or, Bool.or_false]

theorem not_isTorn_trim {text : Text} (h : Text.isTorn text = false) :
    Text.isTorn (Text.trim text) = false := (isTorn_trim text).trans h

theorem isTorn_typeName (text : Text) : Text.isTorn (typeName text) = Text.isTorn text := by
  by_cases h : isBuiltIn (Text.trim text) = true
  · have hname : Text.isTorn (Text.trim text) = false :=
      List.any_eq_false.2 fun c hc hsurrogate =>
        not_mem_of_isBuiltIn h (isLower_of_isSurrogate hsurrogate).1 (fun word hword hmem =>
          List.any_eq_false.1 (builtInTypes_fixed word hword).2.2.2.1 c hmem hsurrogate) hc
    rw [← isTorn_trim text, hname, typeName, if_pos h]
    exact (builtInTypes_fixed _ (isBuiltIn_iff.1 h)).2.2.2.1
  · rw [typeName, if_neg h, isTorn_trim]

theorem not_isTorn_typeName {text : Text} (h : Text.isTorn text = false) :
    Text.isTorn (typeName text) = false := (isTorn_typeName text).trans h

structure IsTypeName (name : Text) : Prop where
  nonempty : name ≠ []
  trimmed : Text.trim name = name
  builtIn : Text.lower name ∈ builtInTypes → Text.lower name = name

structure IsIdentifier (name : Text) : Prop where
  trimmed : Text.trim name = name
  free : name ∉ reservedWords

theorem typeName_eq_self_iff {name : Text} :
    typeName name = name ↔
      Text.trim name = name ∧ (Text.lower name ∈ builtInTypes → Text.lower name = name) := by
  constructor
  · intro hfixed
    have htrim : Text.trim name = name := Text.trim_eq_self (hfixed ▸ isTrimmed_typeName name)
    refine ⟨htrim, fun hmem => ?_⟩
    rwa [typeName, htrim, if_pos (isBuiltIn_iff.2 hmem)] at hfixed
  · rintro ⟨htrim, hlower⟩
    rw [typeName, htrim]
    split_ifs with h
    · exact hlower (isBuiltIn_iff.1 h)
    · rfl

theorem isTypeName_of_fixed {name : Text} (hne : name ≠ []) (hfixed : typeName name = name) :
    IsTypeName name :=
  ⟨hne, (typeName_eq_self_iff.1 hfixed).1, (typeName_eq_self_iff.1 hfixed).2⟩

theorem isIdentifier_identifier (text : Text) : IsIdentifier (identifier text) := by
  by_cases h : isReserved (Text.trim text) = true
  · obtain ⟨htrim, hfree⟩ := reservedWords_fixed _ (isReserved_iff.1 h)
    rw [identifier, if_pos h]
    exact ⟨htrim, fun hmem => by rw [isReserved_iff.2 hmem] at hfree; cases hfree⟩
  · rw [identifier, if_neg h]
    exact ⟨Text.trim_trim text, fun hmem => h (isReserved_iff.2 hmem)⟩

theorem identifier_of_isIdentifier {name : Text} (h : IsIdentifier name) :
    identifier name = name := by
  rw [identifier, h.trimmed, if_neg (mt isReserved_iff.1 h.free)]

theorem identifier_eq_self_iff {name : Text} : identifier name = name ↔ IsIdentifier name :=
  ⟨fun h => h ▸ isIdentifier_identifier name, identifier_of_isIdentifier⟩

theorem identifier_identifier (text : Text) : identifier (identifier text) = identifier text :=
  identifier_of_isIdentifier (isIdentifier_identifier text)

end ApiStubs.Lua
