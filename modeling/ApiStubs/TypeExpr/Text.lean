import ApiStubs.TypeExpr.Basic

/-! Type expressions as text: a name, and arguments between angle brackets, cut at the commas that
no bracket encloses. Text that does not end with a bracket is a name as a whole. -/

namespace ApiStubs.TypeExpr

def depthAfter (depth : Int) (c : CodePoint) : Int :=
  if c = '<' then depth + 1 else if c = '>' then depth - 1 else depth

/-- The pieces between commas at depth zero. A bracket that closes nothing makes the depth
negative. -/
def cutTopLevel (depth : Int) : Text → List Text
  | [] => [[]]
  | c :: rest =>
      let depth := depthAfter depth c
      if c = ',' ∧ depth = 0 then [] :: cutTopLevel depth rest
      else match cutTopLevel depth rest with
        | [] => [[c]]
        | piece :: more => (c :: piece) :: more

def cutArguments (text : Text) : List Text :=
  ((cutTopLevel 0 text).map Text.trim).filter fun piece => !piece.isEmpty

theorem length_le_of_mem_cutTopLevel {text piece : Text} {depth : Int}
    (h : piece ∈ cutTopLevel depth text) : piece.length ≤ text.length := by
  induction text generalizing depth piece with
  | nil => simp_all [cutTopLevel]
  | cons c rest ih =>
    simp only [cutTopLevel] at h
    split at h
    · rcases List.mem_cons.1 h with rfl | h
      · simp
      · have := ih h
        simp only [List.length_cons]
        omega
    · split at h
      · rename_i heq
        rw [List.mem_singleton.1 h]
        simp
      · rename_i first more heq
        rcases List.mem_cons.1 h with rfl | h
        · have := @ih first (depthAfter depth c) (by rw [heq]; simp)
          simpa using this
        · have := @ih piece (depthAfter depth c) (by rw [heq]; exact List.mem_cons_of_mem _ h)
          simp only [List.length_cons]
          omega

theorem length_le_of_mem_cutArguments {text piece : Text} (h : piece ∈ cutArguments text) :
    piece.length ≤ text.length := by
  obtain ⟨raw, hraw, rfl⟩ := List.mem_map.1 (List.mem_filter.1 h).1
  exact Nat.le_trans (Text.length_trim_le raw) (length_le_of_mem_cutTopLevel hraw)

def isOutside (c : CodePoint) : Bool := c != '<'

/-- What stands before the first opening bracket, and between it and a closing bracket at the
end. -/
def cutBrackets? (text : Text) : Option (Text × Text) :=
  match text.dropWhile isOutside with
  | _ :: rest =>
      if rest.getLast? = some (.char '>') then some (text.takeWhile isOutside, rest.dropLast)
      else none
  | [] => none

theorem length_lt_of_cutBrackets? {text name inner : Text}
    (h : cutBrackets? text = some (name, inner)) : inner.length < text.length := by
  have hle := (List.dropWhile_suffix isOutside (l := text)).length_le
  simp only [cutBrackets?] at h
  split at h
  · rename_i c rest heq
    rw [heq] at hle
    split at h
    · cases h
      simp only [List.length_cons, List.length_dropLast] at hle ⊢
      omega
    · cases h
  · cases h

def parse (text : Text) : Except Fault TypeExpr :=
  if (Text.trim text).isEmpty then .error .emptyType
  else match _h : cutBrackets? (Text.trim text) with
    | none => make (Text.trim text) []
    | some (name, inner) =>
        if (Text.trim name).isEmpty then .error (.noBaseName (Text.trim text))
        else do
          let arguments ← (cutArguments inner).attach.mapM fun ⟨piece, _⟩ => parse piece
          make (Text.trim name) arguments
termination_by text.length
decreasing_by
  have h1 := length_lt_of_cutBrackets? _h
  have h2 := Text.length_trim_le text
  have h3 := length_le_of_mem_cutArguments ‹_›
  omega

mutual
def render : TypeExpr → Text
  | ⟨name, arguments⟩ =>
      if arguments.isEmpty then name else name ++ "<" ++ renderAll arguments ++ ">"

def renderAll : List TypeExpr → Text
  | [] => []
  | [t] => t.render
  | t :: rest => t.render ++ ", " ++ renderAll rest
end

end ApiStubs.TypeExpr
