import ApiStubs.Json.Reader
import ApiStubs.Json.Writer
import Mathlib.Tactic.SplitIfs
import Mathlib.Data.List.TakeWhile

/-! Strings and whole numbers in JSON text. What is written for one is read as it again, whatever
follows a string and whatever may follow a number in a written text. -/

namespace ApiStubs

theorem CodePoint.ofNat_toNat {c : CodePoint} (h : c.isSurrogate = false) : ofNat c.toNat = c := by
  cases c with
  | surrogate offset => cases h
  | char c =>
    have hvalid := c.valid
    have hnot : ¬(firstSurrogate ≤ c.toNat ∧ c.toNat - firstSurrogate < 0x800) := by
      rcases hvalid with h | ⟨h, -⟩
      · have : c.toNat < 0xD800 := h
        simp only [firstSurrogate]
        omega
      · have : 0xDFFF < c.toNat := h
        simp only [firstSurrogate]
        omega
    rw [toNat, ofNat, dif_neg hnot, Char.ofNat_toNat]

namespace Json

theorem hexValue?_hexDigit {n : Nat} (h : n < 16) : hexValue? (Text.hexDigit n) = some n := by
  revert n
  decide

theorem hexQuad?_hexDigits {n : Nat} (h : n < 0x10000) {more : Text} (hmore : more ≠ []) :
    hexQuad? (Text.hexDigits 4 n ++ more) = some (n, more) := by
  obtain ⟨next, rest, rfl⟩ := List.exists_cons_of_ne_nil hmore
  have hlt (k : Nat) : k % 16 < 16 := Nat.mod_lt k (by decide)
  simp only [Text.hexDigits, List.nil_append, List.cons_append, hexQuad?,
    hexValue?_hexDigit (hlt _)]
  change some (_, _) = _
  congr 2
  omega

theorem readEscape_of_named {mark c : CodePoint} (h : namedEscape? mark = some c) (opening : Text)
    (more : Text) : readEscape opening (mark :: more) = .ok (c, more) := by
  rw [readEscape]
  · rw [h]
  · rintro rfl
    cases h

theorem readEscape_of_number {n : Nat} (h : n < 0xD800) (opening : Text) {more : Text}
    (hmore : more ≠ []) :
    readEscape opening (.char 'u' :: (Text.hexDigits 4 n ++ more)) = .ok (.ofNat n, more) := by
  have hhigh : isHighSurrogate n = false := by
    simp only [isHighSurrogate, Bool.and_eq_false_iff, decide_eq_false_iff_not]
    omega
  rw [readEscape, readUnit, hexQuad?_hexDigits (by omega) hmore]
  simp only [hhigh]

section Points

variable (opening : Text) (fuel : Nat) {c : CodePoint} {after more : Text}

theorem readPoints_of_escape (h : readEscape opening after = .ok (c, more)) :
    readPoints opening (fuel + 1) ('\\' :: after) =
      (readPoints opening fuel more).map fun (s, rest) => (c :: s, rest) := by
  rw [readPoints, h]
  change (readPoints opening fuel more >>= _) = _
  cases readPoints opening fuel more <;> rfl

theorem readPoints_of_plain (hquote : c ≠ '"') (hslash : c ≠ '\\') (hcontrol : ¬c.toNat < 0x20) :
    readPoints opening (fuel + 1) (c :: more) =
      (readPoints opening fuel more).map fun (s, rest) => (c :: s, rest) := by
  rw [readPoints, if_neg hcontrol]
  · cases readPoints opening fuel more <;> rfl
  · exact hquote
  · exact hslash

theorem readPoints_escape (hc : c.isSurrogate = false) (hmore : more ≠ []) :
    readPoints opening (fuel + 1) (escape c ++ more) =
      (readPoints opening fuel more).map fun (s, rest) => (c :: s, rest) := by
  have hnumber : ∀ n, c.toNat = n → c = .ofNat n := fun n hn => by
    rw [← hn, CodePoint.ofNat_toNat hc]
  have hnamed {mark : CodePoint} (hmark : namedEscape? mark = some c) :=
    readPoints_of_escape opening fuel (readEscape_of_named hmark opening more)
  rw [escape]
  split_ifs with hmark hnewline hreturn htab hback hfeed hcontrol
  · refine hnamed ?_
    rcases hmark with rfl | rfl <;> rfl
  · exact hnamed (hnewline ▸ rfl)
  · exact hnamed (hreturn ▸ rfl)
  · exact hnamed (htab ▸ rfl)
  · exact hnamed (hnumber 8 hback ▸ rfl)
  · exact hnamed (hnumber 12 hfeed ▸ rfl)
  · have hlow : c.toNat < 0x20 := by simpa [hc] using hcontrol
    have hescape := readEscape_of_number (n := c.toNat) (by omega) opening hmore
    rw [CodePoint.ofNat_toNat hc] at hescape
    exact readPoints_of_escape opening fuel hescape
  · simp only [not_or] at hmark
    exact readPoints_of_plain opening fuel hmark.1 hmark.2 (by simpa [hc] using hcontrol)

end Points

theorem readString_escape {s : Text} (hs : s.isTorn = false) {fuel : Nat} (hfuel : s.length < fuel)
    (rest : Text) : readString fuel (s.flatMap escape ++ .char '"' :: rest) = .ok (s, rest) := by
  rw [readString]
  generalize .char '"' :: (s.flatMap escape ++ .char '"' :: rest) = opening
  induction s generalizing fuel with
  | nil =>
    obtain ⟨fuel, rfl⟩ := Nat.exists_eq_succ_of_ne_zero (Nat.ne_of_gt hfuel)
    rfl
  | cons c more ih =>
    obtain ⟨fuel, rfl⟩ := Nat.exists_eq_succ_of_ne_zero (Nat.ne_of_gt (Nat.zero_lt_of_lt hfuel))
    obtain ⟨hc, hmore⟩ := Bool.or_eq_false_iff.1 hs
    rw [List.flatMap_cons, List.append_assoc, readPoints_escape opening fuel hc (by simp),
      ih hmore (by simpa using hfuel)]
    rfl

theorem length_le_escape (s : Text) : s.length ≤ (s.flatMap escape).length := by
  have hone : ∀ c, 1 ≤ (escape c).length := by
    intro c
    rw [escape]
    split_ifs <;> simp [Text.ofString]
  induction s with
  | nil => exact Nat.zero_le _
  | cons c more ih =>
    have hc := hone c
    rw [List.flatMap_cons, List.length_append, List.length_cons]
    omega

section Numbers

open Digits (isDigit)

def decimal (n : Nat) : Text := (Nat.toDigits 10 n).map CodePoint.char

theorem ofString_toString_nat (n : Nat) : Text.ofString (toString n) = decimal n := by
  rw [Nat.toString_eq_ofList_toDigits, Text.ofString, String.toList_ofList, decimal]

theorem ofString_toString_int (i : Int) :
    Text.ofString (toString i) =
      if i < 0 then .char '-' :: decimal i.natAbs else decimal i.natAbs := by
  cases i with
  | ofNat n => exact ofString_toString_nat n
  | negSucc n =>
    have hneg : toString (Int.negSucc n) = "-" ++ toString (n + 1) := String.toByteArray_inj.mp rfl
    rw [hneg, Text.ofString, String.toList_append, List.map_append, if_pos (Int.negSucc_lt_zero n)]
    exact congrArg _ (ofString_toString_nat (n + 1))

theorem isDigit_of_mem_decimal {n : Nat} {c : CodePoint} (h : c ∈ decimal n) :
    isDigit c = true := by
  obtain ⟨d, hd, rfl⟩ := List.mem_map.1 h
  have hdigit := Nat.isDigit_of_mem_toDigits (by decide) (by decide) hd
  obtain ⟨hlow, hhigh⟩ := Char.isDigit_iff_toNat.1 hdigit
  exact Bool.and_eq_true_iff.2 ⟨decide_eq_true hlow, decide_eq_true hhigh⟩

theorem decimal_ne_nil (n : Nat) : decimal n ≠ [] := by simp [decimal]

theorem value_decimal (n : Nat) : Digits.value (decimal n) = n := by
  have hfold : ∀ (cs : List Char) (start : Nat),
      (cs.map CodePoint.char).foldl (fun n c => n * 10 + (c.toNat - 48)) start =
        Nat.ofDigitChars 10 cs start := by
    intro cs start
    induction cs generalizing start with
    | nil => rfl
    | cons c cs ih =>
      rw [Nat.ofDigitChars_cons, Nat.mul_comm]
      exact ih _
  rw [Digits.value, decimal, hfold]
  exact Nat.ofDigitChars_toDigits (by decide) (by decide)

theorem exists_cons_int (i : Int) :
    ∃ c more, Text.ofString (toString i) = c :: more ∧ (c = .char '-' ∨ isDigit c = true) := by
  rw [ofString_toString_int]
  split
  · exact ⟨_, _, rfl, .inl rfl⟩
  · obtain ⟨c, more, hc⟩ := List.exists_cons_of_ne_nil (decimal_ne_nil i.natAbs)
    exact ⟨c, more, hc, .inr (isDigit_of_mem_decimal (hc ▸ List.mem_cons_self))⟩

theorem eq_zero_of_toDigits {n : Nat} {more : List Char} (h : Nat.toDigits 10 n = '0' :: more) :
    n = 0 := by
  have hdigit : ∀ n < 10, n.digitChar = '0' → n = 0 := by decide
  induction n using Nat.strongRecOn generalizing more with
  | _ n ih =>
    by_cases hn : n < 10
    · rw [Nat.toDigits_of_lt_base hn, List.cons.injEq] at h
      exact hdigit n hn h.1
    · rw [Nat.toDigits_of_base_le (by decide) (Nat.le_of_not_lt hn)] at h
      have hne : Nat.toDigits 10 (n / 10) ≠ [] := Nat.toDigits_ne_nil
      obtain ⟨first, digits, hdigits⟩ := List.exists_cons_of_ne_nil hne
      rw [hdigits, List.cons_append, List.cons.injEq] at h
      have hzero := ih (n / 10) (by omega) (h.1 ▸ hdigits)
      omega

/-- What may stand after a value: nothing at all, a comma or a line end. -/
def Ends (rest : Text) : Prop := ∀ c ∈ rest.head?, c = .char ',' ∨ c = .char '\n'

variable {rest : Text}

theorem Ends.takeWhile (h : Ends rest) : rest.takeWhile isDigit = [] := by
  cases rest with
  | nil => rfl
  | cons c rest => rcases h c rfl with rfl | rfl <;> rfl

theorem Ends.readFraction (h : Ends rest) : readFraction rest = ([], rest) := by
  cases rest with
  | nil => rfl
  | cons c rest => rcases h c rfl with rfl | rfl <;> rfl

theorem Ends.readExponent (h : Ends rest) : readExponent rest = (none, rest) := by
  cases rest with
  | nil => rfl
  | cons c rest => rcases h c rfl with rfl | rfl <;> rfl

theorem readUnsigned?_decimal (negative : Bool) (n : Nat) (h : Ends rest) :
    readUnsigned? negative (decimal n ++ rest) =
      some (number negative (decimal n) [] none, rest) := by
  by_cases hn : n = 0
  · subst hn
    rw [show decimal 0 ++ rest = .char '0' :: rest from rfl, readUnsigned?]
    simp only [show Text.ofString "0" = [.char '0'] from rfl, List.isEmpty_cons, Bool.false_eq_true,
      if_false, List.length_singleton, List.drop_succ_cons, List.drop_zero, h.readFraction,
      h.readExponent]
    rfl
  · have hwhole : (decimal n ++ rest).takeWhile isDigit = decimal n := by
      rw [List.takeWhile_append_of_pos fun c => isDigit_of_mem_decimal, h.takeWhile,
        List.append_nil]
    rw [readUnsigned?]
    · simp only [hwhole, List.isEmpty_eq_false_iff.2 (decimal_ne_nil n), Bool.false_eq_true,
        if_false, List.drop_left, h.readFraction, h.readExponent]
    · intro more hmore
      have hdigits : Nat.toDigits 10 n ≠ [] := Nat.toDigits_ne_nil
      obtain ⟨c, digits, hdigits⟩ := List.exists_cons_of_ne_nil hdigits
      rw [decimal, hdigits, List.map_cons, List.cons_append, List.cons.injEq,
        CodePoint.char.injEq] at hmore
      exact hn (eq_zero_of_toDigits (hmore.1 ▸ hdigits))

theorem number_decimal (negative : Bool) {n : Nat} (h : (decimal n).length ≤ Digits.limit) :
    number negative (decimal n) [] none = .ok (.int (if negative then -n else n)) := by
  rw [number]
  simp only [List.isEmpty_nil, Option.isNone_none, Bool.and_self, if_true,
    if_neg (Nat.not_lt.2 h), value_decimal]

theorem ne_of_isDigit {c : CodePoint} (hc : isDigit c = true) (mark : Char)
    (hmark : isDigit mark = false) : .char mark ≠ c := by
  rintro rfl
  exact Bool.false_ne_true (hmark.symm.trans hc)

theorem readLiteral?_of_isDigit {c : CodePoint} (hc : isDigit c = true) (more : Text) :
    readLiteral? (c :: more) = none ∧ readLiteral? (.char '-' :: c :: more) = none := by
  have hne := ne_of_isDigit hc
  constructor
  · simp [readLiteral?, literals, Text.ofString, hne 'n' rfl, hne 't' rfl, hne 'f' rfl, hne 'N' rfl,
      hne 'I' rfl, hne '-' rfl]
  · simp [readLiteral?, literals, Text.ofString, hne 'I' rfl]

theorem readScalar_int {i : Int} (hi : (decimal i.natAbs).length ≤ Digits.limit) (h : Ends rest) :
    readScalar (Text.ofString (toString i) ++ rest) = .ok (.int i, rest) := by
  obtain ⟨c, more, hc⟩ := List.exists_cons_of_ne_nil (decimal_ne_nil i.natAbs)
  have hdigit : isDigit c = true := isDigit_of_mem_decimal (hc ▸ List.mem_cons_self)
  obtain ⟨hplain, hsigned⟩ := readLiteral?_of_isDigit hdigit (more ++ rest)
  rw [ofString_toString_int, readScalar]
  split_ifs with hneg
  · rw [List.cons_append, readNumber?, readUnsigned?_decimal true _ h, number_decimal true hi, hc,
      List.cons_append, hsigned]
    simp only [if_true, Int.ofNat_natAbs_of_nonpos (Int.le_of_lt hneg), Int.neg_neg]
    rfl
  · have hnumber : readNumber? (decimal i.natAbs ++ rest) =
        readUnsigned? false (decimal i.natAbs ++ rest) := by
      rw [readNumber?]
      intro more hmore
      rw [hc] at hmore
      exact ne_of_isDigit hdigit '-' rfl (List.cons.inj hmore).1.symm
    rw [hnumber, readUnsigned?_decimal false _ h, number_decimal false hi, hc,
      List.cons_append, hplain]
    simp only [Bool.false_eq_true, if_false, Int.natAbs_of_nonneg (Int.not_lt.1 hneg)]
    rfl

end Numbers

end Json
end ApiStubs
