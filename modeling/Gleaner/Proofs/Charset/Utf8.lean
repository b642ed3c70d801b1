import Gleaner.Charset.Utf8

/-!
UTF-8 read back. What encodes a character decodes to it, whatever follows (`decode_encodeChar`), so
that encoding loses nothing (`decode_encode`).
-/
namespace Gleaner.Utf8

/-- Code points of characters: all that are not surrogates. -/
theorem toNat_char (c : Char) :
    c.toNat < 0xd800 ∨ (0xdfff < c.toNat ∧ c.toNat < 0x110000) :=
  c.valid

theorem tails_zero {value b : Nat} {test : Nat → Bool} (h : test b = true) (rest : List Nat) :
    tails value 0 test (b :: rest) = (Char.ofNat (value * 64 + (b - 0x80)), rest) := by
  rw [tails, if_pos h]

theorem tails_succ {value more b : Nat} {test : Nat → Bool} (h : test b = true)
    (rest : List Nat) :
    tails value (more + 1) test (b :: rest) =
      tails (value * 64 + (b - 0x80)) more isTail rest := by
  rw [tails, if_pos h]

theorem isTail_low (n : Nat) : isTail (0x80 + n % 64) = true := by
  simp [isTail]
  omega

/-- The second byte of a character beyond the first two lengths is one that its lead allows. -/
theorem isSecond_of_char {lead b : Nat} (hb : 0x80 ≤ b ∧ b < 0xc0) (h0 : lead = 0xe0 → 0xa0 ≤ b)
    (h1 : lead = 0xf0 → 0x90 ≤ b) (h2 : lead = 0xed → b < 0xa0) (h3 : lead = 0xf4 → b < 0x90) :
    isSecond lead b = true := by
  unfold isSecond
  simp only [Bool.and_eq_true, decide_eq_true_eq]
  constructor
  · split
    next h => exact h0 h
    next =>
      split
      next h => exact h1 h
      next => exact hb.1
  · split
    next h => exact h2 h
    next =>
      split
      next h => exact h3 h
      next => exact hb.2

theorem ofNat_of_eq {n : Nat} {c : Char} (h : n = c.toNat) : Char.ofNat n = c :=
  h ▸ Char.ofNat_toNat c

theorem toNat_ofNat {b : Nat} (h : b < 0x80) : (Char.ofNat b).toNat = b := by
  have hvalid : b.isValidChar := Or.inl (by omega)
  rw [Char.ofNat, dif_pos hvalid]
  rfl

section

variable {c : Char} (rest : List Nat)

theorem decodeChar_two (h1 : 0x80 ≤ c.toNat) (h2 : c.toNat < 0x800) :
    decodeChar (0xc0 + c.toNat / 64) ((0x80 + c.toNat % 64) :: rest) = (c, rest) := by
  have hlead : (0xc2 ≤ 0xc0 + c.toNat / 64 && 0xc0 + c.toNat / 64 < 0xe0) = true := by
    simp
    omega
  rw [decodeChar, if_neg (by omega), if_pos hlead, tails_zero (isTail_low _),
    ofNat_of_eq (c := c) (by omega)]

theorem decodeChar_three (h1 : 0x800 ≤ c.toNat) (h2 : c.toNat < 0x10000) :
    decodeChar (0xe0 + c.toNat / 4096)
      ((0x80 + c.toNat / 64 % 64) :: (0x80 + c.toNat % 64) :: rest) = (c, rest) := by
  have hvalid := toNat_char c
  have hnot : ¬ (0xc2 ≤ 0xe0 + c.toNat / 4096 && 0xe0 + c.toNat / 4096 < 0xe0) = true := by simp
  have hlead : (0xe0 ≤ 0xe0 + c.toNat / 4096 && 0xe0 + c.toNat / 4096 < 0xf0) = true := by
    simp
    omega
  have hsecond : isSecond (0xe0 + c.toNat / 4096) (0x80 + c.toNat / 64 % 64) = true :=
    isSecond_of_char (by omega) (by omega) (by omega) (by omega) (by omega)
  rw [decodeChar, if_neg (by omega), if_neg hnot, if_pos hlead, tails_succ hsecond,
    tails_zero (isTail_low _), ofNat_of_eq (c := c) (by omega)]

theorem decodeChar_four (h : 0x10000 ≤ c.toNat) :
    decodeChar (0xf0 + c.toNat / 262144)
      ((0x80 + c.toNat / 4096 % 64) :: (0x80 + c.toNat / 64 % 64) ::
        (0x80 + c.toNat % 64) :: rest) = (c, rest) := by
  have hvalid := toNat_char c
  have hnot2 : ¬ (0xc2 ≤ 0xf0 + c.toNat / 262144 && 0xf0 + c.toNat / 262144 < 0xe0) = true := by
    simp
    omega
  have hnot3 : ¬ (0xe0 ≤ 0xf0 + c.toNat / 262144 && 0xf0 + c.toNat / 262144 < 0xf0) = true := by
    simp
  have hlead : (0xf0 ≤ 0xf0 + c.toNat / 262144 && 0xf0 + c.toNat / 262144 < 0xf5) = true := by
    simp
    omega
  have hsecond : isSecond (0xf0 + c.toNat / 262144) (0x80 + c.toNat / 4096 % 64) = true :=
    isSecond_of_char (by omega) (by omega) (by omega) (by omega) (by omega)
  rw [decodeChar, if_neg (by omega), if_neg hnot2, if_neg hnot3, if_pos hlead, tails_succ hsecond,
    tails_succ (isTail_low _), tails_zero (isTail_low _), ofNat_of_eq (c := c) (by omega)]

end

theorem decode_of_decodeChar {a : Nat} {bs rest : List Nat} {c : Char}
    (h : decodeChar a bs = (c, rest)) : decode (a :: bs) = c :: decode rest := by
  rw [decode_cons, h]

theorem decode_encodeChar (c : Char) (rest : List Nat) :
    decode (encodeChar c ++ rest) = c :: decode rest := by
  unfold encodeChar
  dsimp only
  split
  next h1 => exact (decode_cons_of_ascii h1 rest).trans (by rw [Char.ofNat_toNat])
  next h1 =>
    split
    next h2 => exact decode_of_decodeChar (decodeChar_two rest (by omega) h2)
    next h2 =>
      split
      next h3 => exact decode_of_decodeChar (decodeChar_three rest (by omega) h3)
      next h3 => exact decode_of_decodeChar (decodeChar_four rest (by omega))

theorem decode_encode (cs : List Char) : decode (encode cs) = cs := by
  induction cs with
  | nil => exact decode_nil
  | cons c cs ih =>
    rw [encode, List.flatMap_cons, decode_encodeChar]
    exact congrArg (c :: ·) ih

/-- What encodes a character are bytes. -/
theorem lt_of_mem_encodeChar {b : Nat} {c : Char} (h : b ∈ encodeChar c) : b < 256 := by
  have hvalid := toNat_char c
  unfold encodeChar at h
  dsimp only at h
  repeat' split at h
  all_goals
    simp only [List.mem_cons, List.not_mem_nil, or_false] at h
    omega

theorem lt_of_mem_encode {b : Nat} {cs : List Char} (h : b ∈ encode cs) : b < 256 := by
  obtain ⟨c, _, hb⟩ := List.mem_flatMap.mp h
  exact lt_of_mem_encodeChar hb

end Gleaner.Utf8
