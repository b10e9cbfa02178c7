import ApiStubs.Proofs.Text.Split
import ApiStubs.Proofs.TypeExpr.Parsing
import ApiStubs.Proofs.TypeExpr.Commas

/-! The arguments between brackets. A text is cut at just those commas in front of which as many
brackets open as close, and nothing but blanks is lost; the brackets need not match. Reading a type
comes to an end because what it reads next is always shorter. -/

namespace ApiStubs

namespace TypeExpr

variable {text name inner piece : Text} {pieces : List Text}

def IsLevel (text : Text) : Prop := text.count (.char '<') = text.count (.char '>')

instance (text : Text) : Decidable (IsLevel text) :=
  inferInstanceAs (Decidable (text.count (.char '<') = text.count (.char '>')))

theorem depthThrough_eq_count (depth : Int) (text : Text) :
    depthThrough depth text = depth + text.count (.char '<') - text.count (.char '>') := by
  induction text generalizing depth with
  | nil => simp
  | cons c rest ih =>
    rw [depthThrough_cons, ih, depthAfter]
    by_cases hopen : c = '<'
    · subst hopen
      rw [if_pos rfl, List.count_cons_self, List.count_cons_of_ne (by decide)]
      omega
    · by_cases hclose : c = '>'
      · subst hclose
        rw [if_neg hopen, if_pos rfl, List.count_cons_of_ne hopen, List.count_cons_self]
        omega
      · rw [if_neg hopen, if_neg hclose, List.count_cons_of_ne hopen, List.count_cons_of_ne hclose]

theorem isLevel_iff : IsLevel text ↔ depthThrough 0 text = 0 := by
  rw [depthThrough_eq_count, IsLevel]
  omega

theorem isLevel_append {a b : Text} (ha : IsLevel a) : IsLevel (a ++ b) ↔ IsLevel b := by
  simp only [IsLevel, List.count_append] at ha ⊢
  omega

theorem isLevel_comma_cons : IsLevel (.char ',' :: text) ↔ IsLevel text := by
  simp [IsLevel]

theorem isLevel_join (h : ∀ piece ∈ pieces, IsLevel piece) :
    IsLevel (Text.join [.char ','] pieces) := by
  induction pieces with
  | nil => rfl
  | cons first rest ih =>
    by_cases hrest : rest = []
    · simpa [hrest, Text.join_singleton] using h
    · rw [Text.join_cons _ _ hrest, isLevel_append (h first (by simp)), List.singleton_append,
        isLevel_comma_cons]
      exact ih fun piece hpiece => h piece (by simp [hpiece])

section Pieces

theorem join_cutTopLevel (depth : Int) (text : Text) :
    Text.join [.char ','] (cutTopLevel depth text) = text := by
  induction text generalizing depth with
  | nil => rfl
  | cons c rest ih =>
    obtain ⟨piece, more, hpieces⟩ :=
      List.exists_cons_of_ne_nil (cutTopLevel_ne_nil (depthAfter depth c) rest)
    have hrest := ih (depthAfter depth c)
    rw [cutTopLevel]
    split_ifs with hcut
    · rw [Text.join_cons _ _ (cutTopLevel_ne_nil _ _), hrest, hcut.1]
      rfl
    · rw [hpieces] at hrest ⊢
      by_cases hmore : more = []
      · simpa [hmore, Text.join_singleton] using hrest
      · rw [Text.join_cons _ _ hmore] at hrest ⊢
        rw [← hrest, List.cons_append]

theorem not_mem_of_mem_cutTopLevel :
    ∀ piece ∈ cutTopLevel 0 text, 0 ∉ commaDepths 0 piece := by
  induction text using cut_induction with
  | whole text hnone => simpa [cutTopLevel_of_not_mem hnone] using hnone
  | cut first rest hnone hdepth ih =>
    rw [cutTopLevel_append_comma hnone hdepth]
    simpa using ⟨hnone, ih⟩

theorem isLevel_of_mem_dropLast_cutTopLevel :
    ∀ piece ∈ (cutTopLevel 0 text).dropLast, IsLevel piece := by
  induction text using cut_induction with
  | whole text hnone => simp [cutTopLevel_of_not_mem hnone]
  | cut first rest hnone hdepth ih =>
    rw [cutTopLevel_append_comma hnone hdepth,
      List.dropLast_cons_of_ne_nil (cutTopLevel_ne_nil 0 rest)]
    simpa using ⟨isLevel_iff.2 hdepth, ih⟩

/-- The pieces of a text between its top commas, those in front of which as many brackets open as
close. What stands in front of such a comma is just what some of the first pieces make up. -/
structure IsCutInto (text : Text) (pieces : List Text) : Prop where
  ne_nil : pieces ≠ []
  join_eq : Text.join [.char ','] pieces = text
  cut_iff : ∀ before, (IsLevel before ∧ ∃ after, text = before ++ .char ',' :: after) ↔
    ∃ left right, left ≠ [] ∧ right ≠ [] ∧ pieces = left ++ right ∧
      before = Text.join [.char ','] left

theorem isCutInto_cutTopLevel (text : Text) : IsCutInto text (cutTopLevel 0 text) where
  ne_nil := cutTopLevel_ne_nil 0 text
  join_eq := join_cutTopLevel 0 text
  cut_iff before := by
    constructor
    · rintro ⟨hlevel, after, rfl⟩
      exact ⟨_, _, cutTopLevel_ne_nil 0 before, cutTopLevel_ne_nil 0 after,
        cutTopLevel_append (isLevel_iff.1 hlevel) after, (join_cutTopLevel 0 before).symm⟩
    · rintro ⟨left, right, hleft, hright, hpieces, rfl⟩
      have hlevel := @isLevel_of_mem_dropLast_cutTopLevel text
      rw [hpieces, List.dropLast_append_of_ne_nil hright] at hlevel
      refine ⟨isLevel_join fun piece hpiece => hlevel piece (by simp [hpiece]),
        Text.join [.char ','] right, ?_⟩
      rw [← join_cutTopLevel 0 text, hpieces, Text.join_append _ hleft hright]
      rfl

namespace IsCutInto

variable {first : Text} {rest : List Text}

theorem not_mem_head (h : IsCutInto text (first :: rest)) : 0 ∉ commaDepths 0 first := by
  intro hzero
  obtain ⟨before, after, rfl, -, hdepth⟩ := exists_first_cut hzero
  have hcut : ∃ more, text = before ++ .char ',' :: more := by
    rw [← h.join_eq]
    by_cases hrest : rest = []
    · exact ⟨after, by rw [hrest, Text.join_singleton]⟩
    · exact ⟨_, by rw [Text.join_cons _ _ hrest, List.append_assoc, List.cons_append]⟩
  obtain ⟨left, right, hleft, -, hpieces, hbefore⟩ :=
    (h.cut_iff before).1 ⟨isLevel_iff.2 hdepth, hcut⟩
  -- the first piece would lie within the text in front of one of its own commas
  obtain ⟨_, more, rfl⟩ := List.exists_cons_of_ne_nil hleft
  obtain ⟨rfl, -⟩ := List.cons.inj hpieces
  have hlength := (hbefore ▸ Text.infix_join [.char ','] List.mem_cons_self).length_le
  rw [List.length_append, List.length_cons] at hlength
  omega

theorem isLevel_head (h : IsCutInto text (first :: rest)) (hrest : rest ≠ []) : IsLevel first :=
  ((h.cut_iff first).2
    ⟨[first], rest, by simp, hrest, rfl, (Text.join_singleton _ _).symm⟩).1

theorem eq_append (h : IsCutInto text (first :: rest)) (hrest : rest ≠ []) :
    text = first ++ .char ',' :: Text.join [.char ','] rest := by
  rw [← h.join_eq, Text.join_cons _ _ hrest, List.singleton_append]

theorem tail (h : IsCutInto text (first :: rest)) (hrest : rest ≠ []) :
    IsCutInto (Text.join [.char ','] rest) rest where
  ne_nil := hrest
  join_eq := rfl
  cut_iff before := by
    have hlevel : IsLevel (first ++ .char ',' :: before) ↔ IsLevel before := by
      rw [isLevel_append (h.isLevel_head hrest), isLevel_comma_cons]
    have hafter (after : Text) : text = (first ++ .char ',' :: before) ++ .char ',' :: after ↔
        Text.join [.char ','] rest = before ++ .char ',' :: after := by
      simp [h.eq_append hrest]
    have hcut := h.cut_iff (first ++ .char ',' :: before)
    simp only [hlevel, hafter] at hcut
    rw [hcut]
    constructor
    · rintro ⟨left, right, hleft, hright, hpieces, hjoin⟩
      obtain ⟨_, more, rfl⟩ := List.exists_cons_of_ne_nil hleft
      obtain ⟨rfl, hothers⟩ := List.cons.inj hpieces
      by_cases hmore : more = []
      · simp [hmore, Text.join_singleton] at hjoin
      · rw [Text.join_cons _ _ hmore] at hjoin
        exact ⟨more, right, hmore, hright, hothers, by simpa using hjoin⟩
    · rintro ⟨left, right, hleft, hright, rfl, rfl⟩
      exact ⟨first :: left, right, by simp, hright, rfl, by rw [Text.join_cons _ _ hleft]; rfl⟩

theorem eq_cutTopLevel (h : IsCutInto text pieces) : pieces = cutTopLevel 0 text := by
  induction pieces generalizing text with
  | nil => exact absurd rfl h.ne_nil
  | cons first rest ih =>
    by_cases hrest : rest = []
    · subst hrest
      rw [← h.join_eq, Text.join_singleton, cutTopLevel_of_not_mem h.not_mem_head]
    · rw [h.eq_append hrest, cutTopLevel_append_comma h.not_mem_head
        (isLevel_iff.1 (h.isLevel_head hrest)), ← ih (h.tail hrest)]

end IsCutInto

end Pieces

section Arguments

theorem exists_of_mem_cutArguments (h : piece ∈ cutArguments text) :
    piece ≠ [] ∧ ∃ raw ∈ cutTopLevel 0 text, Text.trim raw = piece := by
  simpa [cutArguments, and_comm] using h

theorem isTrimmed_of_mem_cutArguments (h : piece ∈ cutArguments text) : piece.IsTrimmed := by
  obtain ⟨-, raw, -, rfl⟩ := exists_of_mem_cutArguments h
  exact Text.isTrimmed_trim raw

theorem cutArguments_of_mem (h : piece ∈ cutArguments text) : cutArguments piece = [piece] := by
  obtain ⟨hne, raw, hraw, rfl⟩ := exists_of_mem_cutArguments h
  rw [cutArguments_of_not_mem (by rw [commaDepths_trim]; exact not_mem_of_mem_cutTopLevel raw hraw),
    Text.trim_trim, if_neg hne]

theorem dropLast_filter_subset (p : Text → Bool) (pieces : List Text) :
    (pieces.filter p).dropLast ⊆ pieces.dropLast := by
  induction pieces with
  | nil => simp
  | cons first rest ih =>
    by_cases hrest : rest = []
    · subst hrest
      by_cases hfirst : p first <;> simp [hfirst]
    · rw [List.dropLast_cons_of_ne_nil hrest, List.filter_cons]
      split_ifs with hfirst
      · by_cases hnone : rest.filter p = []
        · simp [hnone]
        · rw [List.dropLast_cons_of_ne_nil hnone]
          exact List.cons_subset_cons first ih
      · exact fun piece hpiece => List.mem_cons_of_mem first (ih hpiece)

theorem isLevel_trim : IsLevel (Text.trim text) ↔ IsLevel text := by
  rw [isLevel_iff, isLevel_iff, depthThrough_trim]

theorem isLevel_of_mem_dropLast (h : piece ∈ (cutArguments text).dropLast) : IsLevel piece := by
  have hmem := dropLast_filter_subset _ _ h
  rw [← List.map_dropLast] at hmem
  obtain ⟨raw, hraw, rfl⟩ := List.mem_map.1 hmem
  exact isLevel_trim.2 (isLevel_of_mem_dropLast_cutTopLevel raw hraw)

theorem cutArguments_join (hwhole : ∀ piece ∈ pieces, cutArguments piece = [piece])
    (hlevel : ∀ piece ∈ pieces.dropLast, IsLevel piece) :
    cutArguments (Text.join ", " pieces) = pieces := by
  induction pieces with
  | nil => rfl
  | cons first rest ih =>
    by_cases hrest : rest = []
    · subst hrest
      rw [Text.join_singleton, hwhole first (by simp)]
    · rw [List.dropLast_cons_of_ne_nil hrest] at hlevel
      have hjoin : Text.join ", " (first :: rest) =
          first ++ .char ',' :: .char ' ' :: Text.join ", " rest :=
        Text.join_cons _ _ hrest
      rw [hjoin, cutArguments_append_comma (isLevel_iff.1 (hlevel first (by simp))),
        cutArguments_cons_blank (by decide), hwhole first (by simp),
        ih (fun piece hpiece => hwhole piece (by simp [hpiece]))
          (fun piece hpiece => hlevel piece (by simp [hpiece]))]
      rfl

end Arguments

section Ending

structure Applies (text name inner : Text) : Prop where
  shape : Text.trim text = name ++ .char '<' :: (inner ++ [.char '>'])
  before_bracket : ∀ c ∈ name, c ≠ '<'
  ne_nil : Text.trim name ≠ []

def Reads (piece text : Text) : Prop := ∃ name inner, Applies text name inner ∧
  piece ∈ cutArguments inner

theorem Applies.parse_eq (h : Applies text name inner) :
    parse text = (cutArguments inner).mapM parse >>= make (Text.trim name) := by
  have hne : Text.trim text ≠ [] := by simp [h.shape]
  rw [TypeExpr.parse_eq, if_neg (by simpa using hne),
    cutBrackets?_eq_some_iff.2 ⟨h.shape, h.before_bracket⟩]
  exact if_neg (by simpa using h.ne_nil)

theorem Applies.length_lt (h : Applies text name inner) (hpiece : piece ∈ cutArguments inner) :
    piece.length < text.length := by
  have hinner := length_le_of_mem_cutArguments hpiece
  have htrim := Text.length_trim_le text
  rw [h.shape, List.length_append, List.length_cons, List.length_append] at htrim
  omega

theorem wellFounded_reads : WellFounded Reads :=
  Subrelation.wf (fun ⟨_, _, happlies, hpiece⟩ => happlies.length_lt hpiece)
    (measure List.length).wf

end Ending

end TypeExpr

open TypeExpr

/-- Any text is cut at its top commas and nowhere else, into trimmed arguments that are not blank
and of which only the last can open or close more than it closes or opens; put together again, they
are cut into the same. What a type with arguments is read from is shorter than the type, so that
reading comes to an end. -/
theorem arguments_are_cut_at_top_commas (text : Text) :
    (∀ piece ∈ cutArguments text, piece ≠ [] ∧ piece.IsTrimmed) ∧
      (∃ pieces, IsCutInto text pieces ∧ (∀ others, IsCutInto text others → others = pieces) ∧
        cutArguments text = (pieces.map Text.trim).filter fun piece => !piece.isEmpty) ∧
      (∀ piece ∈ (cutArguments text).dropLast, IsLevel piece) ∧
      cutArguments (Text.join ", " (cutArguments text)) = cutArguments text ∧
      (∀ name inner, Applies text name inner →
        parse text = (cutArguments inner).mapM parse >>= make (Text.trim name) ∧
          ∀ piece ∈ cutArguments inner, piece.length < text.length) ∧
      Acc Reads text := by
  have hcut := isCutInto_cutTopLevel text
  have hlevel : ∀ piece ∈ (cutArguments text).dropLast, IsLevel piece :=
    fun _ => isLevel_of_mem_dropLast
  have hjoin : cutArguments (Text.join ", " (cutArguments text)) = cutArguments text :=
    cutArguments_join (fun _ => cutArguments_of_mem) hlevel
  refine ⟨fun piece hpiece => ?_, ⟨_, hcut, fun others hothers => ?_, rfl⟩, hlevel, hjoin,
    fun name inner happlies => ?_, wellFounded_reads.apply text⟩
  · exact ⟨(exists_of_mem_cutArguments hpiece).1, isTrimmed_of_mem_cutArguments hpiece⟩
  · exact hothers.eq_cutTopLevel
  · exact ⟨happlies.parse_eq, fun piece => happlies.length_lt⟩

/-- A bracket that closes nothing keeps the comma behind it, and one that opens later makes the next
comma a cut again. -/
theorem arguments_are_cut_at_top_commas_unbalanced :
    let text : Text := " M<a>, b<c , , d>"
    let inner : Text := "a>, b<c , , d"
    let first : Text := "a>, b<c"
    Applies text "M" inner ∧ cutArguments text = ["M<a>", "b<c , , d>"] ∧
      cutArguments inner = [first, "d"] ∧ IsLevel first ∧
      cutArguments (Text.join ", " [first, "d"]) = [first, "d"] ∧
      parse text = [first, "d"].mapM parse >>= make "M" ∧ first.length < text.length := by
  intro text inner first
  have happlies : Applies text "M" inner := ⟨by decide, by decide, by decide⟩
  have hinner : cutArguments inner = [first, "d"] := by decide
  obtain ⟨-, -, hlevel, hjoin, -, -⟩ := arguments_are_cut_at_top_commas inner
  obtain ⟨-, -, -, -, hreads, -⟩ := arguments_are_cut_at_top_commas text
  obtain ⟨hparse, hshorter⟩ := hreads "M" inner happlies
  rw [hinner] at hlevel hjoin hparse hshorter
  exact ⟨happlies, by decide, hinner, hlevel first (by decide), hjoin, hparse,
    hshorter first (by decide)⟩

end ApiStubs
