import ApiStubs.Proofs.Modifiers
import ApiStubs.Proofs.Text.LowerBlank
import ApiStubs.Proofs.Validation.Checked
import Mathlib.Data.List.Perm.Basic

/-! Normalized modifiers as the canonical form of a set of words. They are the one ascending list of
the words that the values stand for, so neither order nor repetition nor spelling of the values
counts. -/

namespace ApiStubs

theorem Sorted.eq_of_mem_iff {texts others : List Text} (htexts : texts.Pairwise (· < ·))
    (hothers : others.Pairwise (· < ·)) (h : ∀ text, text ∈ texts ↔ text ∈ others) :
    texts = others := by
  have hnodup {texts : List Text} (hpairwise : texts.Pairwise (· < ·)) : texts.Nodup :=
    hpairwise.imp fun {a b} (hlt : a < b) (heq : a = b) => List.lt_irrefl b (heq ▸ hlt)
  exact List.Perm.eq_of_pairwise
    (fun _ _ _ _ hlt hgt => absurd (List.lt_trans hlt hgt) (List.lt_irrefl _)) htexts hothers
    ((List.perm_ext_iff_of_nodup (hnodup htexts) (hnodup hothers)).2 h)

namespace Modifiers

variable {texts others words : List Text} {items : List Json} {before text after : Text}

theorem normalizeWord_eq_nil_iff : normalizeWord text = [] ↔ Text.isBlankText text = true := by
  rw [normalizeWord, Text.lower_eq_nil_iff, isBlankText_iff]

theorem mem_normalize_iff {word : Text} :
    word ∈ normalize texts ↔ word ≠ [] ∧ ∃ text ∈ texts, normalizeWord text = word := by
  have hblank (text : Text) : Text.isBlankText text = false ↔ normalizeWord text ≠ [] := by
    rw [← Bool.not_eq_true, Ne, normalizeWord_eq_nil_iff]
  rw [mem_normalize]
  constructor
  · rintro ⟨text, htext, hword, rfl⟩
    exact ⟨(hblank text).1 hword, text, htext, rfl⟩
  · rintro ⟨hne, text, htext, rfl⟩
    exact ⟨text, htext, (hblank text).2 hne, rfl⟩

theorem normalize_eq_iff :
    normalize texts = normalize others ↔
      ∀ word, word ≠ [] →
        ((∃ text ∈ texts, normalizeWord text = word) ↔
          ∃ text ∈ others, normalizeWord text = word) := by
  constructor
  · intro h word hne
    have hmem : word ∈ normalize texts ↔ word ∈ normalize others := by rw [h]
    simpa only [mem_normalize_iff, hne, ne_eq, not_false_eq_true, true_and] using hmem
  · intro h
    refine Sorted.eq_of_mem_iff (pairwise_normalize texts) (pairwise_normalize others)
      fun word => ?_
    rw [mem_normalize_iff, mem_normalize_iff]
    exact and_congr_right fun hne => h word hne

theorem normalize_append (texts others : List Text) :
    normalize (texts ++ others) = normalize (normalize texts ++ normalize others) := by
  refine normalize_eq_iff.2 fun word hne => ?_
  have hwords (texts : List Text) : (∃ text ∈ normalize texts, normalizeWord text = word) ↔
      ∃ text ∈ texts, normalizeWord text = word := by
    have hmem := congrArg (word ∈ ·) (normalize_normalize texts)
    simpa only [@mem_normalize_iff (normalize texts), @mem_normalize_iff texts, hne, ne_eq,
      not_false_eq_true, true_and, eq_iff_iff] using hmem
  simp only [List.mem_append, or_and_right, exists_or, hwords]

theorem normalize_replace {other : Text} (h : normalizeWord other = normalizeWord text)
    (texts others : List Text) :
    normalize (texts ++ other :: others) = normalize (texts ++ text :: others) := by
  refine normalize_eq_iff.2 fun word _ => ?_
  simp only [List.mem_append, List.mem_cons, or_and_right, exists_or, exists_eq_left, h]

theorem normalizeWord_between (hbefore : before.IsBlank) (hafter : after.IsBlank) (text : Text) :
    normalizeWord (before ++ (text ++ after)) = normalizeWord text := by
  rw [normalizeWord, Text.trim_between hbefore hafter, normalizeWord]

theorem normalizeWord_lower (text : Text) :
    normalizeWord (Text.lower text) = normalizeWord text := by
  rw [normalizeWord, Text.trim_lower, Text.lower_lower, normalizeWord]

/-- The words that the values stand for: the text of each, trimmed and in lower case. All but a
blank one are listed in ascending order. -/
structure Lists (items : List Json) (words : List Text) : Prop where
  ascending : words.Pairwise (· < ·)
  mem_iff : ∀ word, word ∈ words ↔
    word ≠ [] ∧ ∃ item ∈ items, normalizeWord item.display = word

theorem Lists.unique {words' : List Text} (h : Lists items words) (h' : Lists items words') :
    words = words' :=
  Sorted.eq_of_mem_iff h.ascending h'.ascending fun word =>
    (h.mem_iff word).trans (h'.mem_iff word).symm

theorem lists_normalize (items : List Json) : Lists items (normalize (items.map Json.display)) where
  ascending := pairwise_normalize _
  mem_iff word := by
    rw [mem_normalize_iff]
    simp only [List.mem_map, exists_exists_and_eq_and]

theorem Lists.eq_iff {items' : List Json} {words' : List Text} (h : Lists items words)
    (h' : Lists items' words') :
    words = words' ↔ ∀ word, word ≠ [] →
      ((∃ item ∈ items, normalizeWord item.display = word) ↔
        ∃ item ∈ items', normalizeWord item.display = word) := by
  rw [h.unique (lists_normalize items), h'.unique (lists_normalize items'), normalize_eq_iff]
  simp only [List.mem_map, exists_exists_and_eq_and]

theorem ofJson_arr (items : List Json) :
    ofJson (.arr items) = .ok (normalize (items.map Json.display)) := rfl

theorem map_display_str (texts : List Text) : (texts.map Json.str).map Json.display = texts := by
  rw [List.map_map]
  exact List.map_id texts

theorem ofJson_str (text : Text) : ofJson (.str text) = .ok (normalize (Text.words text)) := rfl

end Modifiers

open Modifiers

/-- Any values have normalized modifiers, the one ascending list of their words, and two lists of
values have the same if they stand for the same words. So normalizing the parts first, changing the
order, repeating values, putting blanks around a text or lower-casing it makes no difference; and a
text has the modifiers that its words have. -/
theorem modifiers_are_canonical {before after : Text} (hbefore : before.IsBlank)
    (hafter : after.IsBlank) (xs ys : List Json) (text : Text) :
    ∃ words words', ofJson (.arr xs) = .ok words ∧ ofJson (.arr ys) = .ok words' ∧
      Lists xs words ∧ (∀ others, Lists xs others → others = words) ∧
      (words = words' ↔ ∀ word, word ≠ [] →
        ((∃ x ∈ xs, normalizeWord x.display = word) ↔
          ∃ y ∈ ys, normalizeWord y.display = word)) ∧
      ((∀ x, x ∈ xs ↔ x ∈ ys) → words = words') ∧
      ofJson (.arr (xs ++ ys)) = ofJson (.arr (words.map .str ++ words'.map .str)) ∧
      ofJson (.arr (words.map .str)) = .ok words ∧
      (∀ word ∈ words, Text.isBlankText word = false ∧ word.IsTrimmed ∧ Text.lower word = word) ∧
      ofJson (.arr (xs ++ .str (before ++ (text ++ after)) :: ys)) =
        ofJson (.arr (xs ++ .str text :: ys)) ∧
      ofJson (.arr (xs ++ .str (Text.lower text) :: ys)) = ofJson (.arr (xs ++ .str text :: ys)) ∧
      ofJson (.str text) = ofJson (.arr ((Text.words text).map .str)) := by
  have hlists := lists_normalize xs
  have hlists' := lists_normalize ys
  refine ⟨_, _, ofJson_arr xs, ofJson_arr ys, hlists, fun others hothers => hothers.unique hlists,
    hlists.eq_iff hlists', fun hsame => (hlists.eq_iff hlists').2 fun word _ => ?_, ?_, ?_,
    fun word hword => ?_, ?_, ?_, ?_⟩
  · simp only [hsame]
  · rw [ofJson_arr, ofJson_arr, List.map_append, List.map_append, map_display_str, map_display_str,
      ← normalize_append]
  · rw [ofJson_arr, map_display_str, normalize_normalize]
  · obtain ⟨text, -, hblank, rfl⟩ := mem_normalize.1 hword
    exact ⟨isBlankText_normalizeWord.trans hblank, Text.isTrimmed_lower (Text.isTrimmed_trim text),
      Text.lower_lower _⟩
  · simp only [ofJson_arr, List.map_append, List.map_cons]
    exact congrArg _ (normalize_replace (normalizeWord_between hbefore hafter text) _ _)
  · simp only [ofJson_arr, List.map_append, List.map_cons]
    exact congrArg _ (normalize_replace (normalizeWord_lower text) _ _)
  · rw [ofJson_str, ofJson_arr, map_display_str]

/-- Words in other spellings, a blank one, values that are no texts, and a capital sigma that is the
last letter before a blank. -/
theorem modifiers_are_canonical_spellings :
    let before : Text := "\t "
    let after : Text := "\u3000"
    let xs : List Json := [.str " STATIC", .null, .str "  ", .arr [.str "Final", .int 1]]
    let ys : List Json := [.str "none", .str "static", .bool true]
    before.IsBlank ∧ after.IsBlank ∧
      ofJson (.arr (xs ++ .str (before ++ (Text.ofString "ΟΔΟΣ" ++ after)) :: ys)) =
        .ok ["['final', 1]", "none", "static", "true", "οδος"] ∧
      ofJson (.arr (xs ++ .str (Text.lower "ΟΔΟΣ") :: ys)) =
        ofJson (.arr (xs ++ .str (before ++ (Text.ofString "ΟΔΟΣ" ++ after)) :: ys)) ∧
      ofJson (.arr (xs ++ ys)) =
        ofJson (.arr ([.str "['final', 1]", .str "none", .str "static"] ++
          [.str "none", .str "static", .str "true"])) := by
  intro before after xs ys
  have hbefore : before.IsBlank := by decide
  have hafter : after.IsBlank := by decide
  obtain ⟨words, words', hwords, hwords', -, -, -, -, hunion, -, -, hbetween, hlower, -⟩ :=
    modifiers_are_canonical hbefore hafter xs ys "ΟΔΟΣ"
  have hxs : ofJson (.arr xs) = .ok ["['final', 1]", "none", "static"] :=
    eq_ok_of_toOption (by decide +kernel)
  have hys : ofJson (.arr ys) = .ok ["none", "static", "true"] :=
    eq_ok_of_toOption (by decide +kernel)
  rw [hxs] at hwords
  rw [hys] at hwords'
  cases hwords
  cases hwords'
  exact ⟨hbefore, hafter, eq_ok_of_toOption (by decide +kernel), hlower.trans hbetween.symm, hunion⟩

end ApiStubs
