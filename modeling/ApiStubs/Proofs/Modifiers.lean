import ApiStubs.Modifiers
import ApiStubs.Proofs.Text.Lower
import ApiStubs.Proofs.Text.Sorted

/-! Normalized modifiers: strictly ascending, in lower case, trimmed and not blank. So normalizing
them again changes nothing. -/

namespace ApiStubs.Modifiers

theorem normalizeWord_normalizeWord (text : Text) :
    normalizeWord (normalizeWord text) = normalizeWord text := by
  have htrim := Text.isTrimmed_lower (Text.isTrimmed_trim text)
  rw [normalizeWord, normalizeWord, Text.trim_eq_self htrim, Text.lower_lower]

theorem isBlankText_iff {text : Text} : Text.isBlankText text = true ↔ Text.trim text = [] := by
  simp [Text.isBlankText]

theorem isBlankText_normalizeWord {text : Text} :
    Text.isBlankText (normalizeWord text) = Text.isBlankText text := by
  have htrim := Text.isTrimmed_lower (Text.isTrimmed_trim text)
  rw [Bool.eq_iff_iff, isBlankText_iff, isBlankText_iff, normalizeWord, Text.trim_eq_self htrim,
    Text.lower_eq_nil_iff]

theorem mem_normalize {word : Text} {texts : List Text} :
    word ∈ normalize texts ↔
      ∃ text ∈ texts, Text.isBlankText text = false ∧ normalizeWord text = word := by
  simp [normalize, Sorted.mem_sortOnce, and_assoc]

theorem pairwise_normalize (texts : List Text) : (normalize texts).Pairwise (· < ·) :=
  Sorted.pairwise_sortOnce _

theorem normalize_normalize (texts : List Text) :
    normalize (normalize texts) = normalize texts := by
  have hword : ∀ word ∈ normalize texts,
      Text.isBlankText word = false ∧ normalizeWord word = word := by
    intro word hword
    obtain ⟨text, -, hblank, rfl⟩ := mem_normalize.1 hword
    exact ⟨isBlankText_normalizeWord.trans hblank, normalizeWord_normalizeWord text⟩
  have hfilter : ((normalize texts).filter fun text => !Text.isBlankText text) = normalize texts :=
    List.filter_eq_self.2 fun word hmem => by simp [(hword word hmem).1]
  have hmap : (normalize texts).map normalizeWord = normalize texts := by
    conv_rhs => rw [← List.map_id (normalize texts)]
    exact List.map_congr_left fun word hmem => (hword word hmem).2
  rw [normalize, hfilter, hmap]
  exact Sorted.sortOnce_eq_self (pairwise_normalize texts)

end ApiStubs.Modifiers
