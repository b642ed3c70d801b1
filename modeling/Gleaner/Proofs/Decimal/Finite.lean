import Gleaner.Proofs.Decimal.Double

/-!
Finite doubles: whole numbers of 64 bits, bits with an exponent below the greatest, and products.
A numeral that names no number, or one from the overflow on, is read as no finite double
(`Numeral.isFinite_toFloat`).
-/
namespace Gleaner.Decimal
open Float.Model Float.Model.UnpackedFloat

theorem isFinite_zero : (0.0 : Float).isFinite = true := rfl

theorem isFinite_ofNat {n : ℕ} (hn : n ≤ 2 ^ 63) : (Float.ofNat n).isFinite = true := by
  rcases n.eq_zero_or_pos with rfl | hpos
  · exact isFinite_zero
  · have h := nearest_ofScientific hpos (Nat.zero_le 2048)
    rw [pow_zero, mul_one] at h
    refine h.isFinite.mpr ?_
    have hle : (n : ℚ) ≤ 2 ^ (63 : ℤ) := by exact_mod_cast hn
    exact hle.trans_lt (two_zpow_lt_overflow (by norm_num))

/-- Signed numbers of 64 bits are finite. -/
theorem isFinite_ofInt {n : ℤ} (hn : n.natAbs ≤ 2 ^ 63) : (Float.ofInt n).isFinite = true := by
  cases n with
  | ofNat n => exact isFinite_ofNat hn
  | negSucc n =>
    change (-(Float.ofNat (n + 1))).isFinite = true
    rw [isFinite_neg]
    exact isFinite_ofNat hn

theorem canonical_ofBits {bits : ℕ} (hbits : bits < 2 ^ 64) (h : bits / 2 ^ 52 % 2 ^ 11 ≠ 2047) :
    Canonical (UnpackedFloat.unpack Format.binary64 (UInt64.ofNat bits).toBitVec) := by
  have hnat : (UInt64.ofNat bits).toNat = bits := Nat.mod_eq_of_lt hbits
  exact canonical_unpack (by rwa [UInt64.toNat_toBitVec, hnat])

theorem unpack_ofBits {bits : ℕ} (hbits : bits < 2 ^ 64) (h : bits / 2 ^ 52 % 2 ^ 11 ≠ 2047) :
    (Float.ofBits (UInt64.ofNat bits)).toModel.unpack =
      UnpackedFloat.unpack Format.binary64 (UInt64.ofNat bits).toBitVec :=
  (canonical_ofBits hbits h).unpack_pack

theorem isFinite_ofBits {bits : ℕ} (hbits : bits < 2 ^ 64)
    (h : bits / 2 ^ 52 % 2 ^ 11 ≠ 2047) : (Float.ofBits (UInt64.ofNat bits)).isFinite = true := by
  change (Float.ofBits (UInt64.ofNat bits)).toModel.unpack.isFinite = true
  rw [unpack_ofBits hbits h]
  exact (canonical_ofBits hbits h).isFinite

theorem isFinite_mul_of_not_finite {x y : Float} {v : ℚ} (hx : x.isFinite = false)
    (hy : Exactly y v) : (x * y).isFinite = false := by
  obtain ⟨m, e, hm, hy, -, -⟩ := hy
  change x.toModel.unpack.isFinite = false at hx
  change (Float.Model.pack (UnpackedFloat.mul Format.binary64
    x.toModel.unpack y.toModel.unpack)).unpack.isFinite = false
  rw [hy]
  cases hunpack : x.toModel.unpack with
  | infinity s =>
    have hmul : UnpackedFloat.mul Format.binary64 (.infinity s) (.finite .positive m e hm) =
        .infinity s := by cases s <;> rfl
    rw [hmul]
    cases s <;> rfl
  | notANumber =>
    have hmul : UnpackedFloat.mul Format.binary64 .notANumber (.finite .positive m e hm) =
        .notANumber := rfl
    rw [hmul]
    rfl
  | zero s =>
    rw [hunpack] at hx
    exact absurd hx.symm Bool.false_ne_true
  | finite s m e hpos =>
    rw [hunpack] at hx
    exact absurd hx.symm Bool.false_ne_true

/-- Doubles that a positive one of 53 bits is multiplied with are finite as long as the product is
below the overflow. -/
theorem isFinite_normalized_mul {x y : Float} {r : ℕ} {g : ℤ} {w : ℚ}
    (hx : x.toModel.unpack = normalized r g) (hy : Exactly y w) :
    (x * y).isFinite = true ↔ r * 2 ^ g * w < overflow := by
  obtain ⟨n, f, hn, hy, hbits, rfl⟩ := hy
  by_cases hr : r = 0
  · subst hr
    refine iff_of_true ?_ (by simpa using overflow_pos)
    have hmul : UnpackedFloat.mul Format.binary64 (.zero .positive) (.finite .positive n f hn) =
        .zero .positive := rfl
    change (Float.Model.pack (UnpackedFloat.mul Format.binary64
      x.toModel.unpack y.toModel.unpack)).unpack.isFinite = true
    rw [hx, hy, normalized, dif_pos rfl, hmul]
    rfl
  · obtain ⟨m, e, hm, heq, hvalue, -⟩ := normalized_eq_finite (g := g) hr
    rw [(nearest_mul (hx.trans heq) hy (hbits.trans (Nat.le_mul_of_pos_left n hm))).isFinite,
      hvalue]

/-- What is no finite double: the words for it, and numbers from the overflow on once they are
scaled by a power of 1024. -/
def Numeral.Overflows (k : ℕ) : Numeral → Prop
  | .finite d => overflow ≤ d.size * 1024 ^ k
  | .infinite _ | .nan => True

theorem Numeral.isFinite_toFloat (n : Numeral) : n.toFloat.isFinite = false ↔ n.Overflows 0 := by
  cases n with
  | finite d =>
    rw [← Bool.not_eq_true, Numeral.toFloat, d.isFinite_toFloat, Numeral.Overflows, pow_zero,
      mul_one, not_lt]
  | infinite negative => cases negative <;> exact iff_of_true rfl trivial
  | nan => exact iff_of_true rfl trivial

theorem negative_of_unsigned? {negative : Bool} {cs : List Char} {d : Scaled}
    (h : unsigned? negative cs = some d) : d.negative = negative := by
  unfold unsigned? at h
  dsimp only at h
  split at h <;>
  · split at h
    · cases h
    · split at h
      · cases h
        rfl
      · cases h

theorem negative_of_read? {cs : List Char} {d : Scaled} (h : Numeral.read? cs = some (.finite d)) :
    d.negative = (splitSign cs).1 := by
  unfold Numeral.read? at h
  dsimp only at h
  split at h
  · cases h
  · cases h
  · cases h
  · obtain ⟨d', hd, heq⟩ := Option.map_eq_some_iff.mp h
    cases heq
    exact negative_of_unsigned? hd

end Gleaner.Decimal
