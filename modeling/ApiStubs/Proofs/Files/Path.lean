import ApiStubs.Files.Path
import ApiStubs.Proofs.Text.Split

/-! Paths of texts, and paths below a root. -/

namespace ApiStubs

namespace Path

variable {text stem extension segment : Text} {p root file : Path} {segments : List Text}

theorem splitWhen_isSlash (text : Text) : Text.splitWhen isSlash text = text.splitOn (.char '/') :=
  Text.splitWhen_eq_splitOn _ text

theorem slashes_ofText_eq_zero_iff :
    (ofText text).slashes = 0 ↔ text.head? ≠ some (.char '/') := by
  have hkept (count : Nat) : keptSlashes count = 0 ↔ count = 0 := by
    by_cases hcount : count ≤ 2
    · rw [keptSlashes, if_pos hcount]
    · rw [keptSlashes, if_neg hcount]
      omega
  rw [ofText, hkept]
  cases text with
  | nil => simp
  | cons c rest => by_cases hc : c = .char '/' <;> simp [isSlash, hc]

theorem mem_segments_ofText : segment ∈ (ofText text).segments ↔
    segment ∈ text.splitOn (.char '/') ∧ segment ≠ [] ∧ segment ≠ Text.ofString "." := by
  rw [ofText, splitWhen_isSlash, List.mem_filter, Bool.and_eq_true, bne_iff_ne, bne_iff_ne]
  rfl

structure IsPlain (segment : Text) : Prop where
  ne_nil : segment ≠ []
  ne_dot : segment ≠ Text.ofString "."
  noSlash : CodePoint.char '/' ∉ segment

theorem ofText_join (hne : segments ≠ []) (h : ∀ s ∈ segments, IsPlain s) :
    ofText (Text.join "/" segments) = ⟨0, segments⟩ := by
  have hslashes : (ofText (Text.join "/" segments)).slashes = 0 := by
    rw [slashes_ofText_eq_zero_iff]
    obtain ⟨first, rest, rfl⟩ := List.exists_cons_of_ne_nil hne
    have hfirst := h first List.mem_cons_self
    rw [Text.head?_join _ _ hfirst.ne_nil]
    exact fun hhead => hfirst.noSlash (List.mem_of_mem_head? hhead)
  have hsegments : (ofText (Text.join "/" segments)).segments = segments := by
    have hsplit : (Text.join "/" segments).splitOn (.char '/') = segments :=
      List.splitOn_intercalate _ (fun s hs => (h s hs).noSlash) hne
    rw [ofText, splitWhen_isSlash, hsplit, List.filter_eq_self]
    intro s hs
    rw [Bool.and_eq_true, bne_iff_ne, bne_iff_ne]
    exact ⟨(h s hs).ne_nil, (h s hs).ne_dot⟩
  exact congr (congrArg Path.mk hslashes) hsegments

theorem cutExtension_append (hstem : stem ≠ []) (hextension : extension ≠ [])
    (hdot : CodePoint.char '.' ∉ extension) :
    cutExtension (stem ++ .char '.' :: extension) = stem := by
  rw [cutExtension, Text.cutAtLast?_append stem hdot]
  simp [hstem, hextension]

theorem withExtension?_concat (slashes : Nat) (segments : List Text) (name extension : Text) :
    withExtension? extension ⟨slashes, segments ++ [name]⟩ =
      some ⟨slashes, segments ++ [cutExtension name ++ extension]⟩ := by
  simp [withExtension?]

theorem append_relative (root : Path) (segments : List Text) :
    root ++ (⟨0, segments⟩ : Path) = ⟨root.slashes, root.segments ++ segments⟩ := rfl

theorem append_absolute (root : Path) (h : p.slashes ≠ 0) : root ++ p = p := if_neg h

def IsUnder (file root : Path) : Prop :=
  ∃ below, below ≠ [] ∧ Text.ofString ".." ∉ below ∧
    file = ⟨root.slashes, root.segments ++ below⟩

end Path
end ApiStubs
