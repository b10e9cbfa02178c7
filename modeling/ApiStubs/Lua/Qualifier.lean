import ApiStubs.Text.Word

/-! Short names: every identifier in a text loses the namespace segments in front of it. -/

namespace ApiStubs.Lua

def isNameStart (c : CodePoint) : Bool :=
  ('A' ≤ c && c ≤ 'Z') || ('a' ≤ c && c ≤ 'z') || c == '_' || c == '$'

def isNamePart (c : CodePoint) : Bool := Text.isWord c || c == '$'

def afterSegment? : Text → Option Text
  | [] => none
  | c :: rest =>
      if isNameStart c then
        match rest.dropWhile isNamePart with
        | .char '.' :: d :: more => if isNameStart d then some (d :: more) else none
        | _ => none
      else none

theorem length_lt_of_afterSegment? {text rest : Text} (h : afterSegment? text = some rest) :
    rest.length < text.length := by
  cases text with
  | nil => simp [afterSegment?] at h
  | cons c tail =>
    have hle := (List.dropWhile_suffix isNamePart (l := tail)).length_le
    simp only [afterSegment?] at h
    split at h
    · split at h
      · rename_i d more heq
        rw [heq] at hle
        split at h
        · cases h
          simp only [List.length_cons] at hle ⊢
          omega
        · cases h
      · cases h
    · cases h

/-- A segment starts only where no part of a name stands in front, as `fresh` says. -/
def shortenFrom (fresh : Bool) (text : Text) : Text :=
  match text with
  | [] => []
  | c :: rest =>
      match _h : if fresh then afterSegment? (c :: rest) else none with
      | some shorter => shortenFrom true shorter
      | none => c :: shortenFrom (!isNamePart c) rest
termination_by text.length
decreasing_by
  · split at _h
    · exact length_lt_of_afterSegment? _h
    · cases _h
  · simp

def shorten (text : Text) : Text := shortenFrom true text

end ApiStubs.Lua
