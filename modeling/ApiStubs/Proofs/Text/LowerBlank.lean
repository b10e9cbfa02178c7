import ApiStubs.Proofs.Text.Lower
import ApiStubs.Proofs.Text.Sorted

/-! Lower-casing and blanks. A blank is its own lower-case form and ends the search for a cased
neighbour just as the end of the text does, so it makes no difference which is done first, trimming
or lower-casing. -/

namespace ApiStubs.Text

variable {c : CodePoint} {before text after : Text}

/-- It stays as it is, and no search for a cased neighbour passes over it or ends with success. -/
def isCaseless (c : CodePoint) : Bool := isLower c && !isCaseIgnorable c && !isCased c

theorem blankRanges_caseless :
    ∀ range ∈ blankRanges, ∀ n ∈ List.range' range.1 (range.2 - range.1 + 1),
      n < 0x110000 ∧ isCaseless (.ofNat n) = true := by
  decide +kernel

theorem isCaseless_of_isBlank (h : isBlank c = true) : isCaseless c = true := by
  obtain ⟨range, hrange, hlow, hhigh⟩ := Ranges.exists_of_contains h
  have hmem : c.toNat ∈ List.range' range.1 (range.2 - range.1 + 1) := by
    rw [List.mem_range'_1]
    omega
  obtain ⟨hbound, hcaseless⟩ := blankRanges_caseless range hrange c.toNat hmem
  rwa [CodePoint.toNat_injective (toNat_ofNat hbound)] at hcaseless

theorem isLower_of_isBlank (h : isBlank c = true) : isLower c = true := by
  have hcaseless := isCaseless_of_isBlank h
  simp only [isCaseless, Bool.and_eq_true] at hcaseless
  exact hcaseless.1.1

theorem meetsCased_cons (c : CodePoint) (text : Text) :
    meetsCased (c :: text) = if isCaseIgnorable c then meetsCased text else isCased c := by
  rw [meetsCased, List.dropWhile_cons]
  split_ifs <;> rfl

theorem IsBlank.meetsCased_eq (h : text.IsBlank) : meetsCased text = false := by
  cases text with
  | nil => rfl
  | cons c rest =>
    have hcaseless := isCaseless_of_isBlank (h c List.mem_cons_self)
    simp only [isCaseless, Bool.and_eq_true, Bool.not_eq_true'] at hcaseless
    rw [meetsCased_cons, hcaseless.1.2, if_neg Bool.false_ne_true, hcaseless.2]

theorem meetsCased_append (text : Text) (hafter : after.IsBlank) :
    meetsCased (text ++ after) = meetsCased text := by
  induction text with
  | nil => exact hafter.meetsCased_eq
  | cons c rest ih => rw [List.cons_append, meetsCased_cons, meetsCased_cons, ih]

theorem lowerAfter_of_blanks (before text : Text) (hafter : after.IsBlank) :
    lowerAfter (before ++ after) text = lowerAfter before text := by
  induction text generalizing before with
  | nil => rfl
  | cons c rest ih =>
    rw [lowerAfter_cons, lowerAfter_cons, ← List.cons_append, ih, lowerAt, lowerAt,
      meetsCased_append before hafter]

theorem lowerAfter_append (before text : Text) (hafter : after.IsBlank) :
    lowerAfter before (text ++ after) = lowerAfter before text ++ after := by
  induction text generalizing before with
  | nil => exact lowerAfter_eq_self (fun c hc => isLower_of_isBlank (hafter c hc)) before
  | cons c rest ih =>
    rw [List.cons_append, lowerAfter_cons, lowerAfter_cons, ih, lowerAt, lowerAt,
      meetsCased_append rest hafter, List.append_assoc]

theorem lowerAfter_blanks_append (context text : Text) (hbefore : before.IsBlank) :
    lowerAfter context (before ++ text) =
      before ++ lowerAfter (before.reverse ++ context) text := by
  induction before generalizing context with
  | nil => rfl
  | cons c rest ih =>
    obtain ⟨hc, hrest⟩ := List.forall_mem_cons.1 hbefore
    have hlower := isLower_of_isBlank hc
    simp only [isLower, Bool.and_eq_true, bne_iff_ne, beq_iff_eq] at hlower
    rw [List.cons_append, lowerAfter_cons, lowerAt, if_neg hlower.1, hlower.2, ih _ hrest,
      List.reverse_cons, List.append_assoc]
    rfl

theorem lower_between (hbefore : before.IsBlank) (text : Text) (hafter : after.IsBlank) :
    lower (before ++ (text ++ after)) = before ++ (lower text ++ after) := by
  have hreverse : IsBlank before.reverse := fun c hc => hbefore c (List.mem_reverse.1 hc)
  rw [lower, lowerAfter_blanks_append [] _ hbefore, lowerAfter_append _ text hafter,
    List.append_nil, ← List.nil_append before.reverse, lowerAfter_of_blanks [] text hreverse,
    lower]

theorem trim_lower (text : Text) : trim (lower text) = lower (trim text) := by
  obtain ⟨before, after, heq, hbefore, hafter⟩ := eq_append_trim_append text
  have htrimmed := isTrimmed_lower (isTrimmed_trim text)
  calc trim (lower text) = trim (lower (before ++ (trim text ++ after))) := by rw [← heq]
    _ = trim (before ++ (lower (trim text) ++ after)) := by rw [lower_between hbefore _ hafter]
    _ = lower (trim text) := trim_eq_of_append hbefore hafter htrimmed

end ApiStubs.Text
