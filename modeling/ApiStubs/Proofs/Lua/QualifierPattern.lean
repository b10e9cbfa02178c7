import ApiStubs.Proofs.Lua.Qualifier
import ApiStubs.Proofs.Text.Pattern

/-! Short names by a pattern. Shortening a text is to remove from it every match of one or more
segments that are followed by a name and not preceded by a part of one. -/

namespace ApiStubs.Lua

def segment : Pattern :=
  .inOrder [.one isNameStart, .run .most 0 none isNamePart, .char '.']

def nameBehind : Option CodePoint → Bool := fun before => (before.map isNamePart).getD false

def nameAhead : Option CodePoint → Bool := fun after => (after.map isNameStart).getD false

def qualifier : Pattern :=
  .inOrder [.here fun before _ => !nameBehind before, .loop 1 none segment,
    .here fun _ after => nameAhead after]

section Segment

variable {place : Pattern.Place} {go : Pattern.Place → Option Pattern.Place} {c : CodePoint}
  {rest more : Text}

theorem matchAt_dot_of_ne (h : ∀ more, place.rest ≠ .char '.' :: more) :
    (Pattern.char '.').matchAt place go = none := by
  apply Pattern.matchAt_one_of_neg
  intro c rest hrest
  by_contra hdot
  have hsame : c = .char '.' := by simpa using hdot
  exact h rest (by rw [hrest, hsame])

/-- Only the whole of a name can have the dot behind it. -/
theorem matchAt_segment (hrest : place.rest = c :: rest) (hc : isNameStart c = true) :
    ∃ next : Pattern.Place, next.rest = rest.dropWhile isNamePart ∧
      ∀ go, segment.matchAt place go = (Pattern.char '.').matchAt next go := by
  have hskip : (place.skip [c]).rest = rest := by simp [Pattern.Place.skip, hrest]
  refine ⟨(place.skip [c]).skip (rest.takeWhile isNamePart), ?_, fun go => ?_⟩
  · rw [← hskip, Pattern.rest_skip_takeWhile]
  · rw [segment, Pattern.inOrder, List.foldr_cons, Pattern.matchAt_both,
      Pattern.matchAt_one_of_pos hrest hc, List.foldr_cons, Pattern.matchAt_both,
      Pattern.matchAt_run_of_barred, hskip]
    · simp only [List.foldr_cons, List.foldr_nil, Pattern.matchAt_both, Pattern.matchAt_empty]
    · intro next d inside hinside hd
      have hdot : isNamePart (.char '.') = false := by decide
      rw [List.foldr_cons, Pattern.matchAt_both]
      apply matchAt_dot_of_ne
      intro others hothers
      rw [hinside] at hothers
      rw [(List.cons.inj hothers).1, hdot] at hd
      cases hd

theorem matchAt_segment_of_not_isNameStart
    (h : ∀ c rest, place.rest = c :: rest → isNameStart c = false) :
    segment.matchAt place go = none := by
  rw [segment, Pattern.inOrder, List.foldr_cons, Pattern.matchAt_both,
    Pattern.matchAt_one_of_neg h]

theorem afterSegment?_of_dot (hc : isNameStart c = true)
    (hrest : rest.dropWhile isNamePart = .char '.' :: more) :
    afterSegment? (c :: rest) = if startsName more then some more else none := by
  split_ifs with hmore
  · exact afterSegment?_eq_some_iff.2 ⟨hc, hrest, hmore⟩
  · rw [Option.eq_none_iff_forall_ne_some]
    intro shorter hsome
    obtain ⟨-, hrest', hshorter⟩ := afterSegment?_eq_some_iff.1 hsome
    rw [hrest] at hrest'
    obtain ⟨-, rfl⟩ := List.cons.inj hrest'
    exact hmore hshorter

theorem segment_cases (place : Pattern.Place) :
    (afterSegment? place.rest = none ∧ ∀ go, segment.matchAt place go = none) ∨
      ∃ next : Pattern.Place, next.before = some (.char '.') ∧
        next.rest.length < place.rest.length ∧
        afterSegment? place.rest = (if startsName next.rest then some next.rest else none) ∧
        ∀ go, segment.matchAt place go = go next := by
  cases hrest : place.rest with
  | nil => exact .inl ⟨rfl, fun go => matchAt_segment_of_not_isNameStart fun c rest h => by
      simp [hrest] at h⟩
  | cons c rest =>
    by_cases hc : isNameStart c = true
    · obtain ⟨far, hfar, hway⟩ := matchAt_segment hrest hc
      by_cases hdot : ∃ more, rest.dropWhile isNamePart = .char '.' :: more
      · obtain ⟨more, hmore⟩ := hdot
        have hfront : far.rest = .char '.' :: more := hfar.trans hmore
        have hnext : (far.skip [.char '.']).rest = more := by simp [Pattern.Place.skip, hfront]
        have hsuffix := (List.dropWhile_suffix isNamePart (l := rest)).length_le
        rw [hmore, List.length_cons] at hsuffix
        refine .inr ⟨far.skip [.char '.'], by simp [Pattern.Place.skip], ?_, ?_, fun go => ?_⟩
        · rw [hnext, List.length_cons]
          omega
        · rw [hnext, afterSegment?_of_dot hc hmore]
        · rw [hway]
          exact Pattern.matchAt_one_of_pos hfront (by decide)
      · refine .inl ⟨?_, fun go => ?_⟩
        · rw [Option.eq_none_iff_forall_ne_some]
          intro shorter hsome
          exact hdot ⟨shorter, (afterSegment?_eq_some_iff.1 hsome).2.1⟩
        · rw [hway]
          exact matchAt_dot_of_ne fun more hmore => hdot ⟨more, hfar ▸ hmore⟩
    · have hstart : isNameStart c = false := by simpa using hc
      refine .inl ⟨afterSegment?_of_not_isNameStart hstart rest, fun go =>
        matchAt_segment_of_not_isNameStart fun d others h => ?_⟩
      rw [hrest] at h
      exact (List.cons.inj h).1 ▸ hstart

end Segment

section Onward

variable {place : Pattern.Place}

def onward (most : Nat) (place : Pattern.Place) : Option Pattern.Place :=
  Pattern.loopStep (fun place go => segment.matchAt place go) 0 most place fun next =>
    if nameAhead next.rest.head? then some next else none

/-- Behind a dot, with nothing dropped on the way that shortening would keep. -/
structure Passes (place next : Pattern.Place) : Prop where
  dot : next.before = some (.char '.')
  shorten_eq : shorten place.rest = shorten next.rest
  length_le : next.rest.length ≤ place.rest.length

theorem onward_zero (place : Pattern.Place) :
    onward 0 place = if startsName place.rest then some place else none := rfl

theorem onward_succ (most : Nat) (place : Pattern.Place) :
    onward (most + 1) place = ((segment.matchAt place (onward most)) <|> onward 0 place) := rfl

theorem isSome_onward (most : Nat) (place : Pattern.Place) :
    (onward most place).isSome = startsName place.rest := by
  have hstay (place : Pattern.Place) : (onward 0 place).isSome = startsName place.rest := by
    rw [onward_zero]
    cases startsName place.rest <;> rfl
  -- a name in front is enough, for then no segment needs to be passed
  induction most generalizing place with
  | zero => exact hstay place
  | succ most ih =>
    rw [onward_succ]
    rcases segment_cases place with ⟨-, hnone⟩ | ⟨next, -, -, hafter, hway⟩
    · rw [hnone]
      exact hstay place
    · rw [hway]
      cases hnext : onward most next with
      | none => exact hstay place
      | some last =>
        have hstarts := ih next
        rw [hnext, Option.isSome_some] at hstarts
        rw [← hstarts, if_pos rfl] at hafter
        obtain ⟨-, -, -, -, hplace⟩ := exists_of_afterSegment? hafter
        exact hplace.symm

theorem afterSegment?_of_onward {most : Nat} {next last : Pattern.Place}
    (hafter : afterSegment? place.rest = if startsName next.rest then some next.rest else none)
    (h : onward most next = some last) : afterSegment? place.rest = some next.rest := by
  have hstarts := isSome_onward most next
  rw [h, Option.isSome_some] at hstarts
  rw [hafter, ← hstarts, if_pos rfl]

theorem Passes.of_segment {next last : Pattern.Place} (h : Passes next last)
    (hafter : afterSegment? place.rest = some next.rest)
    (hlength : next.rest.length < place.rest.length) : Passes place last where
  dot := h.dot
  shorten_eq := by rw [← h.shorten_eq, shorten, shortenFrom_of_some hafter, shorten]
  length_le := h.length_le.trans hlength.le

theorem passes_of_onward {most : Nat} {last : Pattern.Place}
    (hdot : place.before = some (.char '.')) (h : onward most place = some last) :
    Passes place last := by
  have hstay {place : Pattern.Place} (hdot : place.before = some (.char '.'))
      (h : onward 0 place = some last) : Passes place last := by
    rw [onward_zero] at h
    split_ifs at h
    cases h
    exact ⟨hdot, rfl, le_rfl⟩
  induction most generalizing place with
  | zero => exact hstay hdot h
  | succ most ih =>
    rw [onward_succ] at h
    rcases segment_cases place with ⟨-, hnone⟩ | ⟨next, hnext, hlength, hafter, hway⟩
    · rw [hnone] at h
      exact hstay hdot h
    · rw [hway] at h
      cases hfound : onward most next with
      | none =>
        rw [hfound] at h
        exact hstay hdot h
      | some found =>
        rw [hfound] at h
        cases h
        exact (ih hnext hfound).of_segment (afterSegment?_of_onward hafter hfound) hlength

end Onward

section Removal

theorem matchAt_qualifier (place : Pattern.Place) :
    qualifier.matchAt place some =
      if nameBehind place.before then none
      else match place.rest.length with
        | 0 => none
        | most + 1 => segment.matchAt place (onward most) := by
  rw [qualifier, Pattern.inOrder, List.foldr_cons, Pattern.matchAt_both, Pattern.matchAt_here,
    List.foldr_cons, Pattern.matchAt_both]
  cases hbehind : nameBehind place.before with
  | true => rfl
  | false =>
    simp only [Bool.not_false, if_true, Bool.false_eq_true, if_false, List.foldr_cons,
      List.foldr_nil, Pattern.matchAt]
    cases hlength : place.rest.length <;> rfl

/-- Where no part of a name is behind, the pattern matches just if a segment can go. -/
theorem qualifier_cases (place : Pattern.Place) (hbehind : nameBehind place.before = false) :
    (afterSegment? place.rest = none ∧ qualifier.matchAt place some = none) ∨
      ∃ next : Pattern.Place, qualifier.matchAt place some = some next ∧
        next.before = some (.char '.') ∧ shorten place.rest = shorten next.rest ∧
        next.rest.length < place.rest.length := by
  rw [matchAt_qualifier, hbehind, if_neg Bool.false_ne_true]
  cases hlength : place.rest.length with
  | zero =>
    rw [List.length_eq_zero_iff] at hlength
    exact .inl ⟨by rw [hlength]; rfl, rfl⟩
  | succ most =>
    rcases segment_cases place with ⟨hafter, hnone⟩ | ⟨next, hdot, hless, hafter, hway⟩
    · exact .inl ⟨hafter, hnone _⟩
    · dsimp only
      rw [hway]
      cases hfound : onward most next with
      | none =>
        have hstarts := isSome_onward most next
        rw [hfound, Option.isSome_none] at hstarts
        rw [← hstarts, if_neg Bool.false_ne_true] at hafter
        exact .inl ⟨hafter, rfl⟩
      | some last =>
        have hnext := passes_of_onward hdot hfound
        have hplace := hnext.of_segment (afterSegment?_of_onward hafter hfound) hless
        have hle := hnext.length_le
        exact .inr ⟨last, rfl, hplace.dot, hplace.shorten_eq, by omega⟩

theorem removeFrom_qualifier (fuel : Nat) (place : Pattern.Place)
    (hfuel : place.rest.length ≤ fuel) :
    qualifier.removeFrom fuel place = shortenFrom (!nameBehind place.before) place.rest := by
  induction fuel generalizing place with
  | zero =>
    have hnil : place.rest = [] := List.length_eq_zero_iff.1 (Nat.le_zero.1 hfuel)
    rw [Pattern.removeFrom, hnil, shortenFrom_nil]
  | succ fuel ih =>
    have hkeep (hnone : qualifier.matchAt place some = none)
        (hafter : nameBehind place.before = false → afterSegment? place.rest = none) :
        qualifier.removeFrom (fuel + 1) place =
          shortenFrom (!nameBehind place.before) place.rest := by
      cases hrest : place.rest with
      | nil => rw [Pattern.removeFrom_nil fuel hnone hrest, shortenFrom_nil]
      | cons c rest =>
        have hskip : (place.skip [c]).rest = rest := by simp [Pattern.Place.skip, hrest]
        rw [hrest, List.length_cons] at hfuel
        rw [Pattern.removeFrom_of_none fuel hnone hrest, ih _ (by rw [hskip]; omega), hskip,
          shortenFrom_of_none]
        · rfl
        · intro hfresh
          rw [← hrest]
          exact hafter (by simpa using hfresh)
    by_cases hbehind : nameBehind place.before = true
    · refine hkeep ?_ fun hfalse => absurd (hbehind.symm.trans hfalse) (by decide)
      rw [matchAt_qualifier, if_pos hbehind]
    · have hfresh : nameBehind place.before = false := by simpa using hbehind
      rcases qualifier_cases place hfresh with ⟨hafter, hnone⟩ | ⟨next, hsome, hdot, hshort, hless⟩
      · exact hkeep hnone fun _ => hafter
      · have hnext : nameBehind next.before = false := by
          rw [hdot]
          decide
        rw [Pattern.removeFrom_of_some fuel hsome, ih next (by omega), hnext, hfresh]
        exact hshort.symm

theorem remove_qualifier (text : Text) : qualifier.remove text = shorten text :=
  removeFrom_qualifier (text.length + 1) (.start text) (Nat.le_succ _)

end Removal

end ApiStubs.Lua
