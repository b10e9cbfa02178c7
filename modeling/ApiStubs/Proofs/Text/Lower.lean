import ApiStubs.Proofs.Text.Trim
import ApiStubs.Text.Lower

/-! Text in lower case. No lower-case form has one of its own, so lower-casing is idempotent, and no
character becomes blank by it. -/

namespace ApiStubs.Text

theorem toNat_ofNat {n : Nat} (h : n < 0x110000) : (CodePoint.ofNat n).toNat = n := by
  rw [CodePoint.ofNat]
  split_ifs with hsurrogate
  · have hfirst := hsurrogate.1
    change CodePoint.firstSurrogate + (n - CodePoint.firstSurrogate) = n
    omega
  · have hvalid : n.isValidChar := by
      simp only [CodePoint.firstSurrogate, not_and_or] at hsurrogate
      rw [Nat.isValidChar]
      omega
    change (Char.ofNat n).toNat = n
    rw [Char.ofNat, dif_pos hvalid]
    rfl

theorem Ranges.exists_of_contains {ranges : List (Nat × Nat)} {n : Nat}
    (h : Ranges.contains ranges n = true) : ∃ range ∈ ranges, range.1 ≤ n ∧ n ≤ range.2 := by
  induction ranges with
  | nil => cases h
  | cons range rest ih =>
    obtain ⟨low, high⟩ := range
    rw [Ranges.contains] at h
    split_ifs at h with hlow hhigh
    · exact ⟨(low, high), List.mem_cons_self, by omega, hhigh⟩
    · obtain ⟨found, hfound, hin⟩ := ih h
      exact ⟨found, List.mem_cons_of_mem _ hfound, hin⟩

/-- Lower-casing leaves the character as it is, wherever it stands. -/
def isLower (c : CodePoint) : Bool := c != capitalSigma && lowerChar c == [c]

/-- No character that `run` leads to is covered by `other`: the one lies before the other, or they
take turns. -/
def CaseRun.avoids (run other : CaseRun) : Bool :=
  run.target + (run.last - run.first) < other.first || other.last < run.target ||
    ((run.first == run.last || run.stride == other.stride) &&
      run.target % other.stride != other.first % other.stride)

theorem CaseRun.not_covers_of_avoids {run other : CaseRun} (h : run.avoids other = true) {n : Nat}
    (hn : run.covers n = true) : other.covers (run.target + (n - run.first)) = false := by
  by_contra hcovers
  simp only [CaseRun.covers, CaseRun.avoids, Bool.and_eq_true, Bool.or_eq_true, decide_eq_true_eq,
    beq_iff_eq, bne_iff_ne, Bool.not_eq_false] at h hn hcovers
  obtain ⟨⟨hfirst, hlast⟩, hstride⟩ := hn
  obtain ⟨⟨hfirst', hlast'⟩, hstride'⟩ := hcovers
  rcases h with (h | h) | ⟨hstep, hturn⟩
  · omega
  · omega
  · apply hturn
    have hmod : (run.target + (n - run.first)) % other.stride = other.first % other.stride := by
      obtain ⟨k, hk⟩ := Nat.dvd_of_mod_eq_zero hstride'
      rw [show run.target + (n - run.first) = other.first + other.stride * k by omega,
        Nat.add_mul_mod_self_left]
    rw [← hmod]
    rcases hstep with hone | hsame
    · rw [show n - run.first = 0 by omega, Nat.add_zero]
    · rw [Nat.add_mod, ← hsame, hstride, Nat.add_zero, Nat.mod_mod]

def capitalsAndBlanks : List CaseRun :=
  ⟨0x130, 0x130, 1, 0⟩ :: ⟨0x3A3, 0x3A3, 1, 0⟩ ::
    (lowerRuns ++ blankRanges.map fun (low, high) => ⟨low, high, 1, 0⟩)

theorem lowerRuns_avoid :
    (lowerRuns.all fun run => run.target + (run.last - run.first) < 0x110000 &&
      capitalsAndBlanks.all run.avoids) = true := by
  decide +kernel

theorem CaseRun.find?_eq_none {runs : List CaseRun} {c : CodePoint}
    (h : ∀ run ∈ runs, run.covers c.toNat = false) : CaseRun.find? runs c = none := by
  induction runs with
  | nil => rfl
  | cons run rest ih =>
    rw [CaseRun.find?, h run List.mem_cons_self,
      ih fun other hother => h other (List.mem_cons_of_mem _ hother)]
    simp

theorem CaseRun.exists_of_find? {runs : List CaseRun} {c d : CodePoint}
    (h : CaseRun.find? runs c = some d) :
    ∃ run ∈ runs, run.covers c.toNat = true ∧
      d = .ofNat (run.target + (c.toNat - run.first)) := by
  induction runs with
  | nil => cases h
  | cons run rest ih =>
    rw [CaseRun.find?] at h
    split_ifs at h with hbefore hcovers
    · exact ⟨run, List.mem_cons_self, hcovers, (Option.some.inj h).symm⟩
    · obtain ⟨found, hfound, htarget⟩ := ih h
      exact ⟨found, List.mem_cons_of_mem _ hfound, htarget⟩

theorem isLower_of_not_covered {c : CodePoint}
    (h : ∀ run ∈ capitalsAndBlanks, run.covers c.toNat = false) :
    isLower c = true ∧ isBlank c = false := by
  have hdotted : c ≠ 'İ' := by
    rintro rfl
    exact absurd (h ⟨0x130, 0x130, 1, 0⟩ (by simp [capitalsAndBlanks])) (by decide)
  have hsigma : c ≠ capitalSigma := by
    rintro rfl
    exact absurd (h ⟨0x3A3, 0x3A3, 1, 0⟩ (by simp [capitalsAndBlanks])) (by decide)
  have hfind : CaseRun.find? lowerRuns c = none := CaseRun.find?_eq_none fun run hrun =>
    h run (by simp [capitalsAndBlanks, hrun])
  refine ⟨by simp [isLower, hsigma, lowerChar, hdotted, hfind], ?_⟩
  by_contra hblank
  obtain ⟨⟨low, high⟩, hmem, hlow, hhigh⟩ :=
    Ranges.exists_of_contains (Bool.of_not_eq_false hblank)
  have hrun := h ⟨low, high, 1, 0⟩ (by simp [capitalsAndBlanks, hmem])
  simp [CaseRun.covers, hlow, hhigh, Nat.mod_one] at hrun

/-- Every character of a lower-case form is in lower case, and blank only if it stands for
itself. -/
theorem lowerChar_spec {c : CodePoint} (hsigma : c ≠ capitalSigma) :
    ∀ d ∈ lowerChar c, isLower d = true ∧ (isBlank d = true → d = c) := by
  intro d hd
  by_cases hdotted : c = 'İ'
  · subst hdotted
    have hall : ∀ e ∈ lowerChar 'İ', isLower e = true ∧ isBlank e = false := by decide +kernel
    exact ⟨(hall d hd).1, fun hblank => by simp [(hall d hd).2] at hblank⟩
  · have hchar : lowerChar c = [(CaseRun.find? lowerRuns c).getD c] := if_neg hdotted
    rw [hchar, List.mem_singleton] at hd
    cases hfind : CaseRun.find? lowerRuns c with
    | none =>
      rw [hfind, Option.getD_none] at hd
      subst hd
      exact ⟨by simp [isLower, hsigma, hchar, hfind], fun _ => rfl⟩
    | some e =>
      rw [hfind, Option.getD_some] at hd
      subst hd
      obtain ⟨run, hrun, hcovers, rfl⟩ := CaseRun.exists_of_find? hfind
      have hall := List.all_eq_true.1 lowerRuns_avoid run hrun
      simp only [Bool.and_eq_true, decide_eq_true_eq, List.all_eq_true] at hall
      obtain ⟨hbound, havoid⟩ := hall
      have hlast : c.toNat ≤ run.last := by
        simp only [CaseRun.covers, Bool.and_eq_true, decide_eq_true_eq] at hcovers
        exact hcovers.1.2
      obtain ⟨hlower, hblank⟩ := isLower_of_not_covered
        (c := .ofNat (run.target + (c.toNat - run.first))) fun other hother => by
          rw [toNat_ofNat (by omega)]
          exact CaseRun.not_covers_of_avoids (havoid other hother) hcovers
      exact ⟨hlower, fun h => by simp [hblank] at h⟩

theorem lowerChar_ne_nil (c : CodePoint) : lowerChar c ≠ [] := by
  rw [lowerChar]
  split_ifs <;> simp

def lowerAt (before : Text) (c : CodePoint) (rest : Text) : Text :=
  if c = capitalSigma then [.char (if meetsCased before && !meetsCased rest then 'ς' else 'σ')]
  else lowerChar c

theorem lowerAfter_cons (before : Text) (c : CodePoint) (rest : Text) :
    lowerAfter before (c :: rest) = lowerAt before c rest ++ lowerAfter (c :: before) rest := rfl

theorem lowerAt_ne_nil (before : Text) (c : CodePoint) (rest : Text) :
    lowerAt before c rest ≠ [] := by
  by_cases hsigma : c = capitalSigma
  · simp [lowerAt, hsigma]
  · rw [lowerAt, if_neg hsigma]
    exact lowerChar_ne_nil c

theorem lowerAt_spec (before : Text) (c : CodePoint) (rest : Text) :
    ∀ d ∈ lowerAt before c rest, isLower d = true ∧ (isBlank d = true → d = c) := by
  by_cases hsigma : c = capitalSigma
  · have hsmall : ∀ d ∈ [CodePoint.char 'ς', .char 'σ'], isLower d = true ∧ isBlank d = false := by
      decide +kernel
    intro d hd
    have hmem : d ∈ [CodePoint.char 'ς', .char 'σ'] := by
      rw [lowerAt, if_pos hsigma, List.mem_singleton] at hd
      subst hd
      split_ifs <;> simp
    exact ⟨(hsmall d hmem).1, fun hblank => by simp [(hsmall d hmem).2] at hblank⟩
  · rw [lowerAt, if_neg hsigma]
    exact lowerChar_spec hsigma

theorem isLower_of_mem_lowerAfter (before text : Text) :
    ∀ c ∈ lowerAfter before text, isLower c = true := by
  induction text generalizing before with
  | nil => simp [lowerAfter]
  | cons c rest ih =>
    intro d hd
    rw [lowerAfter_cons, List.mem_append] at hd
    rcases hd with hd | hd
    · exact (lowerAt_spec before c rest d hd).1
    · exact ih _ d hd

theorem lowerAfter_eq_self {text : Text} (h : ∀ c ∈ text, isLower c = true) (before : Text) :
    lowerAfter before text = text := by
  induction text generalizing before with
  | nil => rfl
  | cons c rest ih =>
    have hc := h c List.mem_cons_self
    simp only [isLower, Bool.and_eq_true, bne_iff_ne, beq_iff_eq] at hc
    rw [lowerAfter_cons, lowerAt, if_neg hc.1, hc.2, List.singleton_append,
      ih fun d hd => h d (List.mem_cons_of_mem _ hd)]

theorem mem_lowerAfter {c : CodePoint} (hc : isLower c = true) (before text : Text)
    (h : c ∈ text) : c ∈ lowerAfter before text := by
  induction text generalizing before with
  | nil => simp at h
  | cons d rest ih =>
    rw [lowerAfter_cons, List.mem_append]
    rcases List.mem_cons.1 h with rfl | h
    · left
      simp only [isLower, Bool.and_eq_true, bne_iff_ne, beq_iff_eq] at hc
      rw [lowerAt, if_neg hc.1, hc.2]
      exact List.mem_singleton_self c
    · right
      exact ih _ h

theorem lower_lower (text : Text) : lower (lower text) = lower text :=
  lowerAfter_eq_self (isLower_of_mem_lowerAfter [] text) []

theorem lower_eq_nil_iff {text : Text} : lower text = [] ↔ text = [] := by
  cases text with
  | nil => exact ⟨fun _ => rfl, fun _ => rfl⟩
  | cons c rest => simp [lower, lowerAfter_cons, lowerAt_ne_nil]

theorem exists_of_mem_getLast?_lowerAfter (before text : Text) :
    ∀ d ∈ (lowerAfter before text).getLast?, ∃ c ∈ text.getLast?, isBlank d = true → d = c := by
  induction text generalizing before with
  | nil => simp [lowerAfter]
  | cons c rest ih =>
    intro d hd
    rw [lowerAfter_cons, List.getLast?_append] at hd
    cases rest with
    | nil =>
      have hmem : d ∈ lowerAt before c [] :=
        List.mem_of_mem_getLast? (by simpa [lowerAfter] using hd)
      exact ⟨c, rfl, (lowerAt_spec before c [] d hmem).2⟩
    | cons e more =>
      have hlast : d ∈ (lowerAfter (c :: before) (e :: more)).getLast? := by
        obtain ⟨f, hf⟩ := Option.ne_none_iff_exists'.1
          (mt List.getLast?_eq_none_iff.1 (by simp [lowerAfter_cons, lowerAt_ne_nil]) :
            (lowerAfter (c :: before) (e :: more)).getLast? ≠ none)
        rw [hf, Option.some_or] at hd
        rw [hf]
        exact hd
      obtain ⟨b, hb, hblank⟩ := ih (c :: before) d hlast
      exact ⟨b, by rwa [List.getLast?_cons_cons], hblank⟩

theorem isTrimmed_lower {text : Text} (h : IsTrimmed text) : IsTrimmed (lower text) := by
  constructor
  · intro d hd
    cases text with
    | nil => cases hd
    | cons c rest =>
      have hmem : d ∈ lowerAt [] c rest := by
        obtain ⟨e, more, heq⟩ := List.exists_cons_of_ne_nil (lowerAt_ne_nil [] c rest)
        rw [lower, lowerAfter_cons, heq, List.cons_append] at hd
        rw [heq, ← Option.some.inj hd]
        exact List.mem_cons_self
      by_contra hblank
      have hsame := (lowerAt_spec [] c rest d hmem).2 (Bool.of_not_eq_false hblank)
      exact hblank (hsame ▸ h.1 c rfl)
  · intro d hd
    obtain ⟨c, hc, hsame⟩ := exists_of_mem_getLast?_lowerAfter [] text d hd
    by_contra hblank
    exact hblank (hsame (Bool.of_not_eq_false hblank) ▸ h.2 c hc)

end ApiStubs.Text
