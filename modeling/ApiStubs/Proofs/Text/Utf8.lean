import ApiStubs.Proofs.TypeExpr.Written

/-! Octets of a text. They are decoded to the text again, one character after the other. -/

namespace ApiStubs.Utf8

variable {position start seen missing low high value n : Nat} {octet : UInt8} {p : Pending}
  {rest : List UInt8}

def tail (n : Nat) : UInt8 := .ofNat (n % 64 + 0x80)

theorem toNat_tail (n : Nat) : (tail n).toNat = n % 64 + 0x80 := by
  rw [tail, UInt8.toNat_ofNat']
  omega

theorem toNat_tail_mod (n : Nat) : (tail n).toNat % 64 = n % 64 := by
  rw [toNat_tail]
  omega

theorem decodeFrom_lead (h : 0x80 ≤ octet.toNat) (hlead : lead? position octet = some p) :
    decodeFrom position none (octet :: rest) = decodeFrom (position + 1) (some p) rest := by
  rw [decodeFrom, if_neg (Nat.not_lt.2 h), hlead]

theorem decodeFrom_next (hlow : low ≤ n % 64 + 0x80) (hhigh : n % 64 + 0x80 ≤ high) :
    decodeFrom position (some ⟨octet, start, seen, missing + 2, low, high, value⟩)
        (tail n :: rest) =
      decodeFrom (position + 1)
        (some ⟨octet, start, seen + 1, missing + 1, 0x80, 0xBF, value * 64 + n % 64⟩) rest := by
  rw [← toNat_tail] at hlow hhigh
  rw [decodeFrom, if_pos ⟨hlow, hhigh⟩, if_neg (by simp), toNat_tail_mod]
  rfl

theorem decodeFrom_last (hlow : low ≤ n % 64 + 0x80) (hhigh : n % 64 + 0x80 ≤ high) :
    decodeFrom position (some ⟨octet, start, seen, 1, low, high, value⟩) (tail n :: rest) =
      (CodePoint.char (Char.ofNat (value * 64 + n % 64)) :: ·) <$>
        decodeFrom (position + 1) none rest := by
  rw [← toNat_tail] at hlow hhigh
  rw [decodeFrom, if_pos ⟨hlow, hhigh⟩, if_pos le_rfl, toNat_tail_mod]

section Sizes

variable {v : Nat}

theorem decodeFrom_two (hlow : 0x80 ≤ v) (hhigh : v < 0x800) :
    decodeFrom position none (.ofNat (v / 64 % 32 + 192) :: tail v :: rest) =
      (CodePoint.char (Char.ofNat v) :: ·) <$> decodeFrom (position + 2) none rest := by
  have hoctet : (UInt8.ofNat (v / 64 % 32 + 192)).toNat = v / 64 + 0xC0 := by
    rw [UInt8.toNat_ofNat']
    omega
  have hlead : lead? position (.ofNat (v / 64 % 32 + 192)) =
      some ⟨.ofNat (v / 64 % 32 + 192), position, 1, 1, 0x80, 0xBF, v / 64⟩ := by
    simp only [lead?, hoctet]
    rw [if_neg (by omega), if_pos (by omega), Nat.add_sub_cancel]
  rw [decodeFrom_lead (by omega) hlead, decodeFrom_last (by omega) (by omega), Nat.div_add_mod']

/-- The bounds of the second octet leave out what is no character. -/
theorem decodeFrom_three (hlow : 0x800 ≤ v) (hhigh : v < 0x10000)
    (hvalid : v < 0xD800 ∨ 0xDFFF < v) :
    decodeFrom position none (.ofNat (v / 4096 % 16 + 224) :: tail (v / 64) :: tail v :: rest) =
      (CodePoint.char (Char.ofNat v) :: ·) <$> decodeFrom (position + 3) none rest := by
  have hoctet : (UInt8.ofNat (v / 4096 % 16 + 224)).toNat = v / 4096 + 0xE0 := by
    rw [UInt8.toNat_ofNat']
    omega
  have hlead : lead? position (.ofNat (v / 4096 % 16 + 224)) =
      some ⟨.ofNat (v / 4096 % 16 + 224), position, 1, 2,
        if v / 4096 + 0xE0 = 0xE0 then 0xA0 else 0x80,
        if v / 4096 + 0xE0 = 0xED then 0x9F else 0xBF, v / 4096⟩ := by
    simp only [lead?, hoctet]
    rw [if_neg (by omega), if_neg (by omega), if_pos (by omega), Nat.add_sub_cancel]
  have hvalue : (v / 4096 * 64 + v / 64 % 64) * 64 + v % 64 = v := by omega
  rw [decodeFrom_lead (by omega) hlead,
    decodeFrom_next (by split <;> omega) (by split <;> omega),
    decodeFrom_last (by omega) (by omega), hvalue]

theorem decodeFrom_four (hlow : 0x10000 ≤ v) (hhigh : v < 0x110000) :
    decodeFrom position none (.ofNat (v / 262144 % 8 + 240) :: tail (v / 4096) ::
        tail (v / 64) :: tail v :: rest) =
      (CodePoint.char (Char.ofNat v) :: ·) <$> decodeFrom (position + 4) none rest := by
  have hoctet : (UInt8.ofNat (v / 262144 % 8 + 240)).toNat = v / 262144 + 0xF0 := by
    rw [UInt8.toNat_ofNat']
    omega
  have hlead : lead? position (.ofNat (v / 262144 % 8 + 240)) =
      some ⟨.ofNat (v / 262144 % 8 + 240), position, 1, 3,
        if v / 262144 + 0xF0 = 0xF0 then 0x90 else 0x80,
        if v / 262144 + 0xF0 = 0xF4 then 0x8F else 0xBF, v / 262144⟩ := by
    simp only [lead?, hoctet]
    rw [if_neg (by omega), if_neg (by omega), if_neg (by omega), if_pos (by omega),
      Nat.add_sub_cancel]
  have hvalue : ((v / 262144 * 64 + v / 4096 % 64) * 64 + v / 64 % 64) * 64 + v % 64 = v := by
    omega
  rw [decodeFrom_lead (by omega) hlead,
    decodeFrom_next (by split <;> omega) (by split <;> omega),
    decodeFrom_next (by omega) (by omega), decodeFrom_last (by omega) (by omega), hvalue]

end Sizes

theorem decodeFrom_utf8EncodeChar (position : Nat) (c : Char) (rest : List UInt8) :
    ∃ position', decodeFrom position none (String.utf8EncodeChar c ++ rest) =
      (CodePoint.char c :: ·) <$> decodeFrom position' none rest := by
  have hvalid : c.toNat < 0xD800 ∨ 0xDFFF < c.toNat ∧ c.toNat < 0x110000 := c.valid
  have hself : Char.ofNat c.toNat = c := Char.ofNat_toNat c
  rw [String.utf8EncodeChar, Char.toNat_val]
  generalize c.toNat = v at hvalid hself
  subst hself
  split_ifs with hone htwo hthree
  · have hoctet : (UInt8.ofNat v).toNat = v := by
      rw [UInt8.toNat_ofNat']
      omega
    rw [List.singleton_append, decodeFrom, hoctet, if_pos (by omega)]
    exact ⟨_, rfl⟩
  · exact ⟨_, decodeFrom_two (by omega) (by omega)⟩
  · exact ⟨_, decodeFrom_three (by omega) (by omega) (by omega)⟩
  · exact ⟨_, decodeFrom_four (by omega) (by omega)⟩

theorem encode_eq_ok_iff {text : Text} {octets : List UInt8} :
    encode text = .ok octets ↔
      text.isTorn = false ∧ octets = text.flatMap fun c => (octetsOfChar? c).getD [] := by
  rw [← exists_encode_iff, encode, encodeWith]
  split <;> simp [eq_comm]

theorem decode_of_encode {text : Text} {octets : List UInt8} (h : encode text = .ok octets) :
    decode octets = .ok text := by
  obtain ⟨htorn, rfl⟩ := encode_eq_ok_iff.1 h
  rw [decode]
  generalize 0 = position
  induction text generalizing position with
  | nil => rfl
  | cons c rest ih =>
    obtain ⟨hc, hrest⟩ := Bool.or_eq_false_iff.1 htorn
    cases c with
    | surrogate offset => cases hc
    | char c =>
      obtain ⟨position', hdecode⟩ := decodeFrom_utf8EncodeChar position c
        (rest.flatMap fun c => (octetsOfChar? c).getD [])
      rw [List.flatMap_cons]
      exact hdecode.trans (congrArg _ (ih hrest (encode_eq_ok_iff.2 ⟨hrest, rfl⟩) position'))

theorem not_isTorn_of_map {c : Char} {x : Except Fault Text} {text : Text}
    (hx : ∀ rest, x = .ok rest → rest.isTorn = false)
    (h : (CodePoint.char c :: ·) <$> x = .ok text) : text.isTorn = false := by
  cases x with
  | error fault => cases h
  | ok rest =>
    cases h
    exact hx rest rfl

theorem not_isTorn_of_decode {octets : List UInt8} {text : Text} (h : decode octets = .ok text) :
    text.isTorn = false := by
  rw [decode] at h
  generalize 0 = position, (none : Option Pending) = p at h
  fun_induction decodeFrom position p octets generalizing text with
  | case1 =>
    cases h
    rfl
  | case2 => cases h
  | case3 _ _ _ _ ih => exact not_isTorn_of_map (fun _ => ih) h
  | case4 => cases h
  | case5 _ _ _ _ _ _ ih => exact ih h
  | case6 =>
    rename_i ih
    exact not_isTorn_of_map (fun _ => ih) h
  | case7 =>
    rename_i ih
    exact ih h
  | case8 => cases h

end ApiStubs.Utf8
