import ApiStubs.Lua.Qualifier
import ApiStubs.Proofs.Lua.Naming

/-! Short names. Shortening only drops segments of qualified names, so it works on both sides of any
other character by itself, and shortening a second time changes nothing. -/

namespace ApiStubs.Lua

/-- A character that neither belongs to a name nor joins two. -/
def isBetween (c : CodePoint) : Bool := !isNamePart c && c != '.'

def startsName (text : Text) : Bool := (text.head?.map isNameStart).getD false

theorem isBetween_iff {c : CodePoint} : isBetween c = true ↔ isNamePart c = false ∧ c ≠ '.' := by
  simp [isBetween]

theorem isBetween_of_isMark {c : CodePoint} (h : isMark c = true) : isBetween c = true := by
  rcases isMark_iff.1 h with rfl | rfl | rfl <;> decide

theorem blankRanges_alphanumeric :
    (Text.blankRanges.all fun (low, high) => (List.range' low (high + 1 - low)).all fun n =>
      !Text.Ranges.contains Text.alphanumericRanges n) = true := by
  decide +kernel

theorem isBetween_of_isBlank {c : CodePoint} (h : Text.isBlank c = true) : isBetween c = true := by
  obtain ⟨⟨low, high⟩, hrange, hlow, hhigh⟩ := Text.Ranges.exists_of_contains h
  have hall := List.all_eq_true.1 (List.all_eq_true.1 blankRanges_alphanumeric _ hrange) c.toNat
    (List.mem_range'_1.2 ⟨hlow, by omega⟩)
  have hne (d : CodePoint) (hd : Text.isBlank d = false) : c ≠ d := by
    rintro rfl
    exact absurd h (by simp [hd])
  have hunderscore := hne '_' (by decide)
  have hdollar := hne '$' (by decide)
  have hdot := hne '.' (by decide)
  rw [isBetween_iff]
  refine ⟨?_, hdot⟩
  simp only [Bool.not_eq_true'] at hall
  simp [isNamePart, Text.isWord, Text.isAlphanumeric, hunderscore, hdollar, hall]

theorem letters_alphanumeric :
    ((List.range' 65 26 ++ List.range' 97 26).all
      (Text.Ranges.contains Text.alphanumericRanges)) = true := by
  decide +kernel

theorem isNamePart_of_isNameStart {c : CodePoint} (h : isNameStart c = true) :
    isNamePart c = true := by
  have hletter : c.toNat ∈ List.range' 65 26 ++ List.range' 97 26 → isNamePart c = true := by
    intro hmem
    have hword := List.all_eq_true.1 letters_alphanumeric c.toNat hmem
    simp [isNamePart, Text.isWord, Text.isAlphanumeric, hword]
  simp only [isNameStart, Bool.or_eq_true, Bool.and_eq_true, decide_eq_true_eq, beq_iff_eq] at h
  rcases h with ((⟨h₁, h₂⟩ | ⟨h₁, h₂⟩) | rfl) | rfl
  · change 65 ≤ c.toNat at h₁
    change c.toNat ≤ 90 at h₂
    exact hletter (List.mem_append_left _ (List.mem_range'_1.2 ⟨h₁, by omega⟩))
  · change 97 ≤ c.toNat at h₁
    change c.toNat ≤ 122 at h₂
    exact hletter (List.mem_append_right _ (List.mem_range'_1.2 ⟨h₁, by omega⟩))
  · decide
  · decide

theorem isBlank_of_isNameStart {c : CodePoint} (h : isNameStart c = true) :
    Text.isBlank c = false := by
  by_contra hblank
  have hbetween := isBetween_iff.1 (isBetween_of_isBlank (Bool.of_not_eq_false hblank))
  rw [isNamePart_of_isNameStart h] at hbetween
  cases hbetween.1

theorem afterSegment?_eq_some_iff {c : CodePoint} {rest shorter : Text} :
    afterSegment? (c :: rest) = some shorter ↔
      isNameStart c = true ∧ rest.dropWhile isNamePart = .char '.' :: shorter ∧
        startsName shorter = true := by
  rw [afterSegment?]
  split_ifs with hc
  · split
    · rename_i d more hdrop
      split_ifs with hd
      · constructor
        · rintro h
          cases h
          exact ⟨hc, hdrop, hd⟩
        · rintro ⟨-, h, -⟩
          rw [hdrop] at h
          cases h
          rfl
      · constructor
        · rintro h
          cases h
        · rintro ⟨-, h, hstarts⟩
          rw [hdrop] at h
          cases h
          exact absurd hstarts hd
    · rename_i hnone
      constructor
      · rintro h
        cases h
      · rintro ⟨-, h, hstarts⟩
        cases shorter with
        | nil => cases hstarts
        | cons d more => exact absurd h (hnone d more)
  · simp [hc]

theorem afterSegment?_of_not_isNameStart {c : CodePoint} (h : isNameStart c = false) (rest : Text) :
    afterSegment? (c :: rest) = none := by
  rw [afterSegment?, if_neg (by simp [h])]

theorem exists_of_afterSegment? {text shorter : Text} (h : afterSegment? text = some shorter) :
    ∃ segment, text = segment ++ shorter ∧ startsName shorter = true ∧
      (∀ c ∈ segment, isNamePart c = true ∨ c = '.') ∧ startsName text = true := by
  cases text with
  | nil => cases h
  | cons c rest =>
    obtain ⟨hc, hdrop, hstarts⟩ := afterSegment?_eq_some_iff.1 h
    refine ⟨c :: (rest.takeWhile isNamePart ++ [.char '.']), ?_, hstarts, ?_, hc⟩
    · rw [List.cons_append, List.append_assoc, List.singleton_append, ← hdrop,
        List.takeWhile_append_dropWhile]
    · intro d hd
      rcases List.mem_cons.1 hd with rfl | hd
      · exact .inl (isNamePart_of_isNameStart hc)
      · rcases List.mem_append.1 hd with hd | hd
        · exact .inl (List.mem_takeWhile_imp hd)
        · exact .inr (List.mem_singleton.1 hd)

theorem shortenFrom_nil (fresh : Bool) : shortenFrom fresh [] = [] := by
  rw [shortenFrom]

theorem shortenFrom_of_some {text shorter : Text} (h : afterSegment? text = some shorter) :
    shortenFrom true text = shortenFrom true shorter := by
  cases text with
  | nil => cases h
  | cons c rest =>
    rw [shortenFrom]
    split
    · rename_i other hother
      rw [if_pos rfl, h] at hother
      cases hother
      rfl
    · rename_i hnone
      rw [if_pos rfl, h] at hnone
      cases hnone

theorem shortenFrom_of_none {fresh : Bool} {c : CodePoint} {rest : Text}
    (h : fresh = true → afterSegment? (c :: rest) = none) :
    shortenFrom fresh (c :: rest) = c :: shortenFrom (!isNamePart c) rest := by
  rw [shortenFrom]
  split
  · rename_i other hother
    split_ifs at hother with hfresh
    rw [h hfresh] at hother
    cases hother
  · rfl

theorem shortenFrom_false (c : CodePoint) (rest : Text) :
    shortenFrom false (c :: rest) = c :: shortenFrom (!isNamePart c) rest :=
  shortenFrom_of_none nofun

theorem shortenFrom_of_not_isNameStart {c : CodePoint} (h : isNameStart c = false) (fresh : Bool)
    (rest : Text) : shortenFrom fresh (c :: rest) = c :: shortenFrom (!isNamePart c) rest :=
  shortenFrom_of_none fun _ => afterSegment?_of_not_isNameStart h rest

theorem shortenFrom_induction {motive : Bool → Text → Prop} (nil : ∀ fresh, motive fresh [])
    (segment : ∀ text shorter, afterSegment? text = some shorter → motive true shorter →
      motive true text)
    (keep : ∀ fresh c rest, (fresh = true → afterSegment? (c :: rest) = none) →
      motive (!isNamePart c) rest → motive fresh (c :: rest))
    (fresh : Bool) (text : Text) : motive fresh text := by
  induction hn : text.length using Nat.strong_induction_on generalizing fresh text with
  | _ n ih =>
    subst hn
    cases text with
    | nil => exact nil fresh
    | cons c rest =>
      cases hafter : if fresh then afterSegment? (c :: rest) else none with
      | some shorter =>
        split_ifs at hafter with hfresh
        subst hfresh
        exact segment _ shorter hafter
          (ih _ (length_lt_of_afterSegment? hafter) true shorter rfl)
      | none =>
        refine keep fresh c rest (fun hfresh => ?_) (ih _ (by simp) _ rest rfl)
        rwa [if_pos hfresh] at hafter

theorem shortenFrom_sublist (fresh : Bool) (text : Text) :
    (shortenFrom fresh text).Sublist text := by
  induction fresh, text using shortenFrom_induction with
  | nil fresh => rw [shortenFrom_nil]
  | segment text shorter hafter ih =>
    obtain ⟨segment, rfl, -⟩ := exists_of_afterSegment? hafter
    rw [shortenFrom_of_some hafter]
    exact ih.trans (List.sublist_append_right segment shorter)
  | keep fresh c rest hnone ih =>
    rw [shortenFrom_of_none hnone]
    exact ih.cons_cons c

theorem mem_of_mem_shorten {c : CodePoint} {text : Text} (h : c ∈ shorten text) : c ∈ text :=
  (shortenFrom_sublist true text).subset h

theorem startsName_shortenFrom (text : Text) : startsName (shorten text) = startsName text := by
  have hall : ∀ fresh text, fresh = true →
      startsName (shortenFrom fresh text) = startsName text := by
    intro fresh text
    induction fresh, text using shortenFrom_induction with
    | nil fresh => rw [shortenFrom_nil]; exact fun _ => rfl
    | segment text shorter hafter ih =>
      obtain ⟨segment, -, hshorter, -, htext⟩ := exists_of_afterSegment? hafter
      rw [shortenFrom_of_some hafter, ih rfl, hshorter, htext]
      exact fun _ => rfl
    | keep fresh c rest hnone ih => rw [shortenFrom_of_none hnone]; exact fun _ => rfl
  exact hall true text rfl

theorem getLast?_shortenFrom (fresh : Bool) (text : Text) :
    (shortenFrom fresh text).getLast? = text.getLast? := by
  induction fresh, text using shortenFrom_induction with
  | nil fresh => rw [shortenFrom_nil]
  | segment text shorter hafter ih =>
    obtain ⟨segment, rfl, hstarts, -⟩ := exists_of_afterSegment? hafter
    rw [shortenFrom_of_some hafter, ih]
    cases shorter with
    | nil => cases hstarts
    | cons d more => rw [List.getLast?_append_cons]
  | keep fresh c rest hnone ih =>
    rw [shortenFrom_of_none hnone, List.getLast?_cons, List.getLast?_cons, ih]

theorem shorten_eq_nil_iff {text : Text} : shorten text = [] ↔ text = [] := by
  rw [← List.getLast?_eq_none_iff, shorten, getLast?_shortenFrom, List.getLast?_eq_none_iff]

theorem dropWhile_shortenFrom (text : Text) :
    (shortenFrom false text).dropWhile isNamePart =
      shortenFrom false (text.dropWhile isNamePart) := by
  induction text with
  | nil => rw [shortenFrom_nil, List.dropWhile_nil, shortenFrom_nil]
  | cons c rest ih =>
    rw [shortenFrom_false]
    cases hc : isNamePart c with
    | true => rw [List.dropWhile_cons_of_pos hc, List.dropWhile_cons_of_pos hc, Bool.not_true, ih]
    | false =>
      rw [List.dropWhile_cons_of_neg (by simp [hc]), List.dropWhile_cons_of_neg (by simp [hc]),
        shortenFrom_false, hc]

/-- What could not go before cannot go when all behind it is short. -/
theorem afterSegment?_shortenFrom {c : CodePoint} {rest : Text}
    (h : afterSegment? (c :: rest) = none) :
    afterSegment? (c :: shortenFrom (!isNamePart c) rest) = none := by
  cases hc : isNameStart c with
  | false => exact afterSegment?_of_not_isNameStart hc _
  | true =>
    rw [isNamePart_of_isNameStart hc, Bool.not_true, Option.eq_none_iff_forall_ne_some]
    intro shorter hsome
    obtain ⟨-, hdrop, hstarts⟩ := afterSegment?_eq_some_iff.1 hsome
    rw [dropWhile_shortenFrom] at hdrop
    cases hrest : rest.dropWhile isNamePart with
    | nil => rw [hrest, shortenFrom_nil] at hdrop; cases hdrop
    | cons d more =>
      rw [hrest, shortenFrom_false] at hdrop
      obtain ⟨rfl, hmore⟩ := List.cons.inj hdrop
      have hshort : shorten more = shorter := hmore
      rw [← hshort, startsName_shortenFrom] at hstarts
      have hafter := afterSegment?_eq_some_iff.2 ⟨hc, hrest, hstarts⟩
      rw [h] at hafter
      cases hafter

theorem shorten_shorten (text : Text) : shorten (shorten text) = shorten text := by
  have hall : ∀ fresh text,
      shortenFrom fresh (shortenFrom fresh text) = shortenFrom fresh text := by
    intro fresh text
    induction fresh, text using shortenFrom_induction with
    | nil fresh => rw [shortenFrom_nil, shortenFrom_nil]
    | segment text shorter hafter ih => rw [shortenFrom_of_some hafter, ih]
    | keep fresh c rest hnone ih =>
      rw [shortenFrom_of_none hnone,
        shortenFrom_of_none fun hfresh => afterSegment?_shortenFrom (hnone hfresh), ih]
  exact hall true text

section Between

variable {c : CodePoint} (hc : isBetween c = true)
include hc

theorem not_isNameStart_of_isBetween : isNameStart c = false := by
  by_contra hstart
  have hpart := isNamePart_of_isNameStart (Bool.of_not_eq_false hstart)
  rw [(isBetween_iff.1 hc).1] at hpart
  cases hpart

theorem afterSegment?_append (text rest : Text) :
    afterSegment? (text ++ c :: rest) = (afterSegment? text).map (· ++ c :: rest) := by
  obtain ⟨hpart, hdot⟩ := isBetween_iff.1 hc
  have hstart := not_isNameStart_of_isBetween hc
  cases text with
  | nil => exact afterSegment?_of_not_isNameStart hstart rest
  | cons d more =>
    have hdrop : (more ++ c :: rest).dropWhile isNamePart =
        more.dropWhile isNamePart ++ c :: rest := by
      rw [List.dropWhile_append]
      split_ifs with hall
      · rw [List.isEmpty_iff.1 hall, List.dropWhile_cons_of_neg (by simp [hpart]), List.nil_append]
      · rfl
    have hnone (h : afterSegment? (d :: more) = none) :
        afterSegment? (d :: (more ++ c :: rest)) = none := by
      rw [Option.eq_none_iff_forall_ne_some]
      intro shorter hsome
      obtain ⟨hd, hall, hstarts⟩ := afterSegment?_eq_some_iff.1 hsome
      rw [hdrop] at hall
      rcases hmore : more.dropWhile isNamePart with - | ⟨e, tail⟩
      · rw [hmore] at hall
        exact hdot (List.cons.inj hall).1
      · rw [hmore] at hall
        obtain ⟨rfl, rfl⟩ := List.cons.inj hall
        cases tail with
        | nil => exact absurd hstarts (by simp [startsName, hstart])
        | cons f others =>
          have hafter := afterSegment?_eq_some_iff.2 ⟨hd, hmore, hstarts⟩
          rw [h] at hafter
          cases hafter
    rw [List.cons_append]
    cases hafter : afterSegment? (d :: more) with
    | none => exact hnone hafter
    | some shorter =>
      obtain ⟨hd, hmore, hstarts⟩ := afterSegment?_eq_some_iff.1 hafter
      refine afterSegment?_eq_some_iff.2 ⟨hd, by rw [hdrop, hmore]; rfl, ?_⟩
      cases shorter with
      | nil => cases hstarts
      | cons e tail => exact hstarts

theorem shortenFrom_append (fresh : Bool) (text rest : Text) :
    shortenFrom fresh (text ++ c :: rest) = shortenFrom fresh text ++ c :: shorten rest := by
  have hstart := not_isNameStart_of_isBetween hc
  induction fresh, text using shortenFrom_induction with
  | nil fresh =>
    rw [List.nil_append, shortenFrom_of_not_isNameStart hstart, (isBetween_iff.1 hc).1,
      shortenFrom_nil]
    rfl
  | segment text shorter hafter ih =>
    have hwhole : afterSegment? (text ++ c :: rest) = some (shorter ++ c :: rest) := by
      rw [afterSegment?_append hc, hafter]
      rfl
    rw [shortenFrom_of_some hafter, shortenFrom_of_some hwhole, ih]
  | keep fresh d more hnone ih =>
    have hwhole : fresh = true → afterSegment? (d :: (more ++ c :: rest)) = none := fun hfresh => by
      rw [← List.cons_append, afterSegment?_append hc, hnone hfresh]
      rfl
    rw [shortenFrom_of_none hnone, List.cons_append, shortenFrom_of_none hwhole, ih,
      List.cons_append]

theorem shorten_append (text rest : Text) :
    shorten (text ++ c :: rest) = shorten text ++ c :: shorten rest :=
  shortenFrom_append hc true text rest

theorem shorten_cons (rest : Text) : shorten (c :: rest) = c :: shorten rest := by
  have h := shorten_append hc [] rest
  rwa [List.nil_append, shorten, shorten, shortenFrom_nil, List.nil_append] at h

end Between

theorem shorten_between {text : Text} (h : ∀ c ∈ text, isBetween c = true) (rest : Text) :
    shorten (text ++ rest) = text ++ shorten rest := by
  induction text with
  | nil => rfl
  | cons c more ih =>
    rw [List.cons_append, shorten_cons (h c List.mem_cons_self),
      ih fun d hd => h d (List.mem_cons_of_mem _ hd), List.cons_append]

theorem isTrimmed_shorten {text : Text} (h : Text.IsTrimmed text) :
    Text.IsTrimmed (shorten text) := by
  refine ⟨fun c hc => ?_, fun c hc => ?_⟩
  · cases htext : afterSegment? text with
    | some shorter =>
      obtain ⟨segment, -, -, -, hstarts⟩ := exists_of_afterSegment? htext
      rw [← startsName_shortenFrom, startsName, hc] at hstarts
      exact isBlank_of_isNameStart hstarts
    | none =>
      cases text with
      | nil => rw [shorten, shortenFrom_nil] at hc; cases hc
      | cons d rest =>
        rw [shorten, shortenFrom_of_none fun _ => htext] at hc
        exact h.1 c hc
  · rw [shorten, getLast?_shortenFrom] at hc
    exact h.2 c hc

theorem trim_shorten (text : Text) : Text.trim (shorten text) = shorten (Text.trim text) := by
  obtain ⟨before, after, heq, hbefore, hafter⟩ := Text.eq_append_trim_append text
  have hblank : ∀ blanks : Text, (∀ c ∈ blanks, Text.isBlank c = true) → ∀ rest : Text,
      shorten (blanks ++ rest) = blanks ++ shorten rest := fun blanks h =>
    shorten_between fun c hc => isBetween_of_isBlank (h c hc)
  have hcore : shorten (Text.trim text ++ after) = shorten (Text.trim text) ++ after := by
    cases after with
    | nil => rw [List.append_nil, List.append_nil]
    | cons c rest =>
      have hrest := hblank rest (fun d hd => hafter d (List.mem_cons_of_mem _ hd)) []
      have hnil : shorten [] = [] := shorten_eq_nil_iff.2 rfl
      rw [List.append_nil, hnil, List.append_nil] at hrest
      rw [shorten_append (isBetween_of_isBlank (hafter c List.mem_cons_self))]
      exact congrArg _ (congrArg _ hrest)
  conv_lhs => rw [heq]
  rw [hblank before hbefore, hcore]
  exact Text.trim_eq_of_append hbefore hafter (isTrimmed_shorten (Text.isTrimmed_trim text))

theorem shorten_eq_self {text : Text} (h : ∀ c ∈ text, c ≠ '.') : shorten text = text := by
  have hall : ∀ fresh (text : Text), (∀ c ∈ text, c ≠ '.') → shortenFrom fresh text = text := by
    intro fresh text
    induction fresh, text using shortenFrom_induction with
    | nil fresh => exact fun _ => shortenFrom_nil fresh
    | segment text shorter hafter ih =>
      intro hdot
      cases text with
      | nil => cases hafter
      | cons c rest =>
        obtain ⟨-, hdrop, -⟩ := afterSegment?_eq_some_iff.1 hafter
        have hmem : CodePoint.char '.' ∈ rest.dropWhile isNamePart := by
          rw [hdrop]
          exact List.mem_cons_self
        have hrest := (List.dropWhile_sublist isNamePart).subset hmem
        exact absurd rfl (hdot _ (List.mem_cons_of_mem _ hrest))
    | keep fresh c rest hnone ih =>
      intro hdot
      rw [shortenFrom_of_none hnone, ih fun d hd => hdot d (List.mem_cons_of_mem _ hd)]
  exact hall true text h

theorem not_isTorn_shorten {text : Text} (h : Text.isTorn text = false) :
    Text.isTorn (shorten text) = false := by
  simp only [Text.isTorn, List.any_eq_false] at h ⊢
  exact fun c hc => h c (mem_of_mem_shorten hc)

theorem shorten_of_isBuiltIn {name : Text} (h : isBuiltIn name = true) : shorten name = name := by
  refine shorten_eq_self fun c hc hdot => ?_
  subst hdot
  exact not_mem_of_isBuiltIn h (by decide) (by decide) hc

/-- A name is made safe for good only after it is short, for then it may be a built-in type. -/
theorem typeName_shorten_typeName (name : Text) :
    typeName (shorten (typeName name)) = typeName (shorten name) := by
  have htrim : typeName (shorten (Text.trim name)) = typeName (shorten name) := by
    rw [← trim_shorten, typeName_trim]
  by_cases h : isBuiltIn (Text.trim name) = true
  · have hsafe : typeName name = Text.lower (Text.trim name) := by rw [typeName, if_pos h]
    have hlower : isBuiltIn (typeName name) = true := by
      rw [hsafe, isBuiltIn_lower]
      exact h
    rw [← htrim, shorten_of_isBuiltIn h, shorten_of_isBuiltIn hlower, typeName_typeName,
      typeName_trim]
  · have hsafe : typeName name = Text.trim name := by rw [typeName, if_neg h]
    rw [hsafe, htrim]

theorem typeName_shorten_eq_nil_iff {name : Text} :
    typeName (shorten name) = [] ↔ Text.trim name = [] := by
  rw [typeName_eq_nil_iff, trim_shorten, shorten_eq_nil_iff]

theorem identifier_shorten_identifier (name : Text) :
    identifier (shorten (identifier (shorten name))) = identifier (shorten name) := by
  have hshort : shorten (Text.trim (shorten name)) = Text.trim (shorten name) := by
    rw [← trim_shorten, shorten_shorten]
  by_cases h : isReserved (Text.trim (shorten name)) = true
  · have hword := isReserved_iff.1 h
    have hfixed : ∀ word ∈ reservedWords, shorten ("_" ++ word) = "_" ++ word := by
      intro word hword
      refine shorten_eq_self fun c hc => ?_
      have hnone : ∀ word ∈ reservedWords, ∀ c ∈ Text.ofString "_" ++ word, c ≠ '.' := by decide
      exact hnone word hword c hc
    have hname : identifier (shorten name) = "_" ++ Text.trim (shorten name) := by
      rw [identifier, if_pos h]
    rw [hname, hfixed _ hword, ← hname, identifier_identifier]
  · have hname : identifier (shorten name) = Text.trim (shorten name) := by
      rw [identifier, if_neg h]
    rw [hname, hshort, ← hname, identifier_identifier]

end ApiStubs.Lua
