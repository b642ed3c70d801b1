import Gleaner.Proofs.Decimal.Rounding
import Gleaner.Units.Number
import Mathlib.Tactic.FieldSimp

/-!
Doubles as the nearest ones to rational numbers (`Nearest`): products and quotients of doubles, the
numbers that `Float.ofScientific` makes, and decimal numerals. A numeral is read as a finite double
just when its size is below the overflow (`Scaled.isFinite_toFloat`).
-/
namespace Gleaner.Decimal
open Float.Model Float.Model.UnpackedFloat

/-- The double nearest to a value that is not negative; infinity from the overflow on. -/
inductive Nearest (x : Float) (v : ℚ) : Prop
  | finite {r : ℕ} {g : ℤ} (hv : v < overflow) (h : Rounds v r g)
      (hx : x.toModel.unpack = normalized r g)
  | infinite (hv : overflow ≤ v) (hx : x.toModel.unpack = .infinity .positive)

/-- A positive double of 53 bits has exactly the value. -/
def Exactly (x : Float) (v : ℚ) : Prop :=
  ∃ m e hpos, x.toModel.unpack = .finite .positive m e hpos ∧ 2 ^ 52 ≤ m ∧ v = m * 2 ^ e

theorem Rounds.nearest {v : ℚ} {r : ℕ} {g : ℤ} (h : Rounds v r g) :
    Nearest ⟨.pack (normalized r g)⟩ v := by
  rcases lt_or_ge v overflow with hv | hv
  · exact .finite hv h (h.canonical hv).unpack_pack
  · exact .infinite hv (h.unpack_pack_overflow hv)

theorem Nearest.isFinite {x : Float} {v : ℚ} (h : Nearest x v) :
    x.isFinite = true ↔ v < overflow := by
  change x.toModel.unpack.isFinite = true ↔ _
  cases h with
  | finite hv h hx =>
    rw [hx]
    exact iff_of_true (h.canonical hv).isFinite hv
  | infinite hv hx =>
    rw [hx]
    exact iff_of_false Bool.false_ne_true (not_lt.mpr hv)

/-- What does not round to zero is a positive double of the rounded value. -/
theorem normalized_eq_finite {r : ℕ} {g : ℤ} (hr : r ≠ 0) :
    ∃ m e hpos, normalized r g = .finite .positive m e hpos ∧ (m : ℚ) * 2 ^ e = r * 2 ^ g ∧
      (2 ^ 52 ≤ r → 2 ^ 52 ≤ m) := by
  unfold normalized
  rw [dif_neg hr]
  split
  next h =>
    refine ⟨2 ^ 52, g + 1, Nat.two_pow_pos 52, rfl, ?_, fun _ => le_rfl⟩
    rw [h, show g + 1 = g + (1 : ℕ) from rfl, two_zpow_add]
    push_cast
    ring
  next => exact ⟨r, g, Nat.pos_of_ne_zero hr, rfl, rfl, id⟩

/-- Above the subnormals the nearest double has 53 bits, and no number of 53 bits lies between it
and the value. -/
theorem Nearest.exists_exactly {x : Float} {v : ℚ} (h : Nearest x v) (hone : 1 ≤ v)
    (hv : v < overflow) :
    ∃ q, Exactly x q ∧ ∀ (m : ℕ) (f : ℤ), 2 ^ 52 ≤ m → m < 2 ^ 53 → -1074 ≤ f →
      v < (m + 1 / 2) * 2 ^ f → q ≤ m * 2 ^ f := by
  cases h with
  | infinite hlarge => exact absurd hv (not_lt.mpr hlarge)
  | @finite r g _ h hx =>
    have hg : g ≠ -1074 := by
      rintro rfl
      have : (2 : ℚ) ^ (-1074 + 53 : ℤ) ≤ 2 ^ (0 : ℤ) :=
        zpow_le_zpow_right₀ one_le_two (by norm_num)
      rw [zpow_zero] at this
      linarith [h.below]
    have hbits := h.two_pow_le (h.binade.resolve_left hg)
    obtain ⟨m, e, hm, heq, hvalue, hmbits⟩ := normalized_eq_finite (g := g) (by omega : r ≠ 0)
    refine ⟨r * 2 ^ g, ⟨m, e, hm, hx.trans heq, hmbits hbits, hvalue.symm⟩, ?_⟩
    exact fun m f hlow hhigh hf hv => h.value_le hlow hhigh hf hv

section Arithmetic

variable {x y : Float} {v w : ℚ} {m n : ℕ} {e f : ℤ}

theorem nearest_mul {hm : 0 < m} {hn : 0 < n}
    (hx : x.toModel.unpack = .finite .positive m e hm)
    (hy : y.toModel.unpack = .finite .positive n f hn) (hbits : 2 ^ 52 ≤ m * n) :
    Nearest (x * y) (m * 2 ^ e * (n * 2 ^ f)) := by
  obtain ⟨r, g, hr, hround⟩ :=
    roundWithAccuracy_rounds (stands_exact (m * n)) (e := e + f) (Or.inl hbits)
  have hvalue : ((m * n : ℕ) : ℚ) * 2 ^ (e + f) = m * 2 ^ e * (n * 2 ^ f) := by
    rw [zpow_add₀ two_ne_zero]
    push_cast
    ring
  have hmul : x * y = ⟨.pack (normalized r g)⟩ := by
    change Float.ofModel (.pack (UnpackedFloat.mul Format.binary64
      x.toModel.unpack y.toModel.unpack)) = _
    rw [hx, hy, ← hround]
    rfl
  rw [hmul, ← hvalue]
  exact hr.nearest

theorem Exactly.mul (hx : Exactly x v) (hy : Exactly y w) : Nearest (x * y) (v * w) := by
  obtain ⟨m, e, hm, hx, hbits, rfl⟩ := hx
  obtain ⟨n, f, hn, hy, -, rfl⟩ := hy
  exact nearest_mul hx hy (hbits.trans (Nat.le_mul_of_pos_right m hn))

/-- The quotient of two positive numbers is rounded. Its digits are found as far as 53 bits need. -/
theorem div_rounds (hm : 0 < m) (hn : 0 < n) :
    ∃ r g, Rounds (m * 2 ^ e / (n * 2 ^ f)) r g ∧
      UnpackedFloat.div Format.binary64 (.finite .positive m e hm) (.finite .positive n f hn) =
        normalized r g := by
  -- The dividend is shifted by `k` bits, until the quotient has 53 or reaches the least exponent.
  obtain ⟨t, ht⟩ : ∃ t, t = min (e - f)
      (max ((m.log2 : ℤ) + 1 + e - (n.log2 + 1 + f) - 53) (-1074)) := ⟨_, rfl⟩
  obtain ⟨k, hk⟩ : ∃ k : ℕ, e - f = t + k := ⟨(e - f - t).toNat, by omega⟩
  have hcore : divCore Format.binary64 m e n f =
      (m * 2 ^ k / n, t, accuracyOfFraction (m * 2 ^ k % n) n) := by
    have hshift : (e - f - t).toNat = k := by omega
    have htarget : Format.binary64.targetExponent (totalExponent m e - totalExponent n f) =
        max ((m.log2 : ℤ) + 1 + e - (n.log2 + 1 + f) - 53) (-1074) := rfl
    simp only [divCore, htarget, ← ht, hshift, Nat.shiftLeft_eq]
  have hbits : 2 ^ 52 ≤ m * 2 ^ k / n ∨ t ≤ -1074 := by
    by_cases hsmall : t ≤ -1074
    · exact Or.inr hsmall
    · left
      rw [Nat.le_div_iff_mul_le hn]
      calc 2 ^ 52 * n ≤ 2 ^ 52 * 2 ^ (n.log2 + 1) := Nat.mul_le_mul_left _ Nat.lt_log2_self.le
        _ = 2 ^ (52 + (n.log2 + 1)) := (pow_add 2 52 _).symm
        _ ≤ 2 ^ (m.log2 + k) := Nat.pow_le_pow_right two_pos (by omega)
        _ = 2 ^ m.log2 * 2 ^ k := pow_add 2 _ k
        _ ≤ m * 2 ^ k := Nat.mul_le_mul_right _ (Nat.log2_self_le hm.ne')
  have hn' : (n : ℚ) ≠ 0 := by exact_mod_cast hn.ne'
  have hquotient : ((m * 2 ^ k / n : ℕ) : ℚ) + (m * 2 ^ k % n : ℕ) / n = m * 2 ^ k / n := by
    rw [eq_div_iff hn', add_mul, div_mul_cancel₀ _ hn']
    exact_mod_cast Nat.div_add_mod' (m * 2 ^ k) n
  have hvalue : (m : ℚ) * 2 ^ k / n * 2 ^ t = m * 2 ^ e / (n * 2 ^ f) := by
    have he : (2 : ℚ) ^ e = 2 ^ k * 2 ^ t * 2 ^ f := by
      rw [← two_zpow_add, ← zpow_add₀ two_ne_zero]
      congr 1
      omega
    have hf : (2 : ℚ) ^ f ≠ 0 := by positivity
    rw [he]
    field_simp
  obtain ⟨r, g, hr, hround⟩ := roundWithAccuracy_rounds
    (stands_fraction (m * 2 ^ k / n) (Nat.mod_lt (m * 2 ^ k) hn)) hbits
  rw [hquotient, hvalue] at hr
  refine ⟨r, g, hr, ?_⟩
  rw [← hround]
  simp only [UnpackedFloat.div, hcore]
  rfl

theorem Exactly.div (hx : Exactly x v) (hy : Exactly y w) : Nearest (x / y) (v / w) := by
  obtain ⟨m, e, hm, hx, -, rfl⟩ := hx
  obtain ⟨n, f, hn, hy, -, rfl⟩ := hy
  obtain ⟨r, g, hr, hdiv⟩ := div_rounds (e := e) (f := f) hm hn
  have h : x / y = ⟨.pack (normalized r g)⟩ := by
    change Float.ofModel (.pack (UnpackedFloat.div Format.binary64
      x.toModel.unpack y.toModel.unpack)) = _
    rw [hx, hy, hdiv]
  rw [h]
  exact hr.nearest

theorem unpack_neg (x : Float) : (-x).toModel.unpack = x.toModel.unpack.neg := by
  change (Float.Model.pack x.toModel.unpack.neg).unpack = x.toModel.unpack.neg
  by_cases h : x.isFinite = true
  · exact (canonical_of_isFinite h).neg.unpack_pack
  · have h : x.toModel.unpack.isFinite = false := Bool.eq_false_iff.mpr h
    cases hx : x.toModel.unpack with
    | infinity s => cases s <;> rfl
    | notANumber => rfl
    | zero s => rw [hx] at h; exact absurd h.symm Bool.false_ne_true
    | finite s m e hpos => rw [hx] at h; exact absurd h.symm Bool.false_ne_true

theorem isFinite_neg (x : Float) : (-x).isFinite = x.isFinite := by
  change (-x).toModel.unpack.isFinite = x.toModel.unpack.isFinite
  rw [unpack_neg]
  cases x.toModel.unpack <;> rfl

end Arithmetic

section Whole

variable {m : ℕ}

/-- A whole number is rounded from 53 bits on, with zeros behind those it has. -/
theorem ofNat_rounds (hpos : 0 < m) (hm : m < 2 ^ 53) :
    ∃ r g, Rounds m r g ∧ UnpackedFloat.ofNat Format.binary64 m = normalized r g := by
  have hlog : m.log2 ≤ 52 := Nat.lt_succ_iff.mp ((Nat.log2_lt hpos.ne').mpr hm)
  obtain ⟨k, hk⟩ : ∃ k, m.log2 + k = 52 := ⟨52 - m.log2, by omega⟩
  have hbits : 2 ^ 52 ≤ m * 2 ^ k := by
    rw [← hk, pow_add]
    exact Nat.mul_le_mul_right _ (Nat.log2_self_le hpos.ne')
  have hvalue : ((m * 2 ^ k : ℕ) : ℚ) * 2 ^ (-(k : ℤ)) = m := by
    push_cast
    rw [mul_assoc, ← two_zpow_add, neg_add_cancel, zpow_zero, mul_one]
  obtain ⟨r, g, hr, hround⟩ :=
    roundWithAccuracy_rounds (stands_exact (m * 2 ^ k)) (e := -(k : ℤ)) (Or.inl hbits)
  refine ⟨r, g, hvalue ▸ hr, ?_⟩
  have hcompare : compare (m : ℤ) 0 = .gt := by
    rw [Int.compare_eq_gt]
    omega
  have hshift : (-max ((m.log2 : ℤ) + 0 - 52) (-1074)).toNat = k := by omega
  rw [← hround]
  simp only [UnpackedFloat.ofNat, UnpackedFloat.ofInt, UnpackedFloat.normalize, hcompare,
    UnpackedFloat.round, decreaseExponent, targetExponent_eq, hshift, Int.toNat_natCast,
    Nat.shiftLeft_eq, zero_sub]

theorem lt_overflow_of_lt (hm : m < 2 ^ 53) : (m : ℚ) < overflow := by
  have : (m : ℚ) < 2 ^ (53 : ℤ) := by exact_mod_cast hm
  exact this.trans (two_zpow_lt_overflow (by norm_num))

theorem exactly_toFloat (hpos : 0 < m) (hm : m < 2 ^ 53) : Exactly m.toUInt64.toFloat m := by
  obtain ⟨r, g, hr, hround⟩ := ofNat_rounds hpos hm
  have hunpack : m.toUInt64.toFloat.toModel.unpack = normalized r g := by
    have hsize : m.toUInt64.toNat = m := Nat.mod_eq_of_lt (by omega)
    rw [← (hr.canonical (lt_overflow_of_lt hm)).unpack_pack, ← hround]
    change (Float.Model.pack (UnpackedFloat.ofNat Format.binary64 m.toUInt64.toNat)).unpack = _
    rw [hsize]
  have hone : (2 : ℚ) ^ (0 : ℤ) ≤ m := by exact_mod_cast hpos
  have hleast : g ≠ -1074 := by
    rintro rfl
    have : (2 : ℚ) ^ (0 : ℤ) < 2 ^ (-1074 + 53 : ℤ) := hone.trans_lt hr.below
    rw [zpow_lt_zpow_iff_right₀ one_lt_two] at this
    omega
  have hbinade := hr.binade.resolve_left hleast
  have hg : g ≤ 0 := by
    have : (2 : ℚ) ^ (g + 52) < 2 ^ (53 : ℤ) := hbinade.trans_lt (by exact_mod_cast hm)
    rw [zpow_lt_zpow_iff_right₀ one_lt_two] at this
    omega
  obtain ⟨k, rfl⟩ : ∃ k : ℕ, g = -k := ⟨g.natAbs, by omega⟩
  have hvalue : (m : ℚ) = (m * 2 ^ k : ℕ) * 2 ^ (-(k : ℤ)) := by
    push_cast
    rw [mul_assoc, ← two_zpow_add, neg_add_cancel, zpow_zero, mul_one]
  have hbits := hr.two_pow_le hbinade
  obtain ⟨n, e, hn, heq, hne, hnbits⟩ := normalized_eq_finite (g := -k) (by omega : r ≠ 0)
  refine ⟨n, e, hn, hunpack.trans heq, hnbits hbits, ?_⟩
  rw [hne, hr.eq_of_exact hvalue]
  exact hvalue

theorem zpow_eq_div {b : ℚ} (hb : b ≠ 0) (e : ℤ) : b ^ e = b ^ e.toNat / b ^ (-e).toNat := by
  rw [← zpow_natCast, ← zpow_natCast, ← zpow_sub₀ hb]
  congr 1
  omega

/-- Whether a double is a given whole number, by its parts. -/
def isWhole (x : Float) (n : ℕ) : Bool :=
  match x.toModel.unpack with
  | .finite .positive m e _ => 2 ^ 52 ≤ m && m * 2 ^ e.toNat == n * 2 ^ (-e).toNat
  | _ => false

theorem exactly_of_isWhole {x : Float} {n : ℕ} (h : isWhole x n = true) : Exactly x n := by
  unfold isWhole at h
  split at h
  next m e hpos hx =>
    rw [Bool.and_eq_true, decide_eq_true_iff, beq_iff_eq] at h
    refine ⟨m, e, hpos, hx, h.1, ?_⟩
    rw [zpow_eq_div two_ne_zero, mul_div_assoc', eq_div_iff (by positivity)]
    exact_mod_cast h.2.symm
  next => exact absurd h Bool.false_ne_true

theorem isWhole_powersOfTen : ∀ (e : ℕ) (_ : e < Float.exactlyRepresentablePowersOfTen.size),
    isWhole Float.exactlyRepresentablePowersOfTen[e] (10 ^ e) = true := by
  decide +kernel

theorem exactly_powersOfTen {e : ℕ} (he : e < Float.exactlyRepresentablePowersOfTen.size) :
    Exactly Float.exactlyRepresentablePowersOfTen[e] (10 ^ e) := by
  exact_mod_cast exactly_of_isWhole (isWhole_powersOfTen e he)

end Whole

section Scientific

variable {m e : ℕ}

theorem ofScientific_rounds (hm : 0 < m) (he : e ≤ 2048) :
    ∃ r g, Rounds (m * 10 ^ e) r g ∧
      UnpackedFloat.ofScientific Format.binary64 m e = normalized r g := by
  have hbits : 2 ^ 52 ≤ m * 2 ^ 53 * 10 ^ e := by
    calc 2 ^ 52 ≤ 1 * 2 ^ 53 * 1 := by norm_num
      _ ≤ m * 2 ^ 53 * 10 ^ e :=
        Nat.mul_le_mul (Nat.mul_le_mul_right _ hm) (Nat.one_le_pow _ _ (by norm_num))
  obtain ⟨r, g, hr, hround⟩ := roundWithAccuracy_rounds
    (stands_exact (m * 2 ^ 53 * 10 ^ e)) (e := -53) (Or.inl hbits)
  have hvalue : ((m * 2 ^ 53 * 10 ^ e : ℕ) : ℚ) * 2 ^ (-53 : ℤ) = m * 10 ^ e := by
    push_cast
    norm_num
    ring
  refine ⟨r, g, hvalue ▸ hr, ?_⟩
  have hlarge : ¬ (e : ℤ) > 2 ^ 11 := by omega
  have hsmall : ¬ (e : ℤ) < -(2 ^ 11 + m.log2) := by omega
  have hnonneg : (0 : ℤ) ≤ e := by omega
  rw [← hround, UnpackedFloat.ofScientific, dif_neg hm.ne', if_neg hlarge, if_neg hsmall,
    if_pos hnonneg]
  simp only [UnpackedFloat.mul, Nat.shiftLeft_eq, Int.toNat_natCast]
  rfl

theorem ofScientific_rounds_neg (hm : 0 < m) (he : e ≤ 2048 + m.log2) :
    ∃ r g, Rounds (m / 10 ^ e) r g ∧
      UnpackedFloat.ofScientific Format.binary64 m (-(e : ℤ)) = normalized r g := by
  rcases e.eq_zero_or_pos with rfl | hpos
  · simpa using ofScientific_rounds hm (Nat.zero_le 2048)
  obtain ⟨r, g, hr, hdiv⟩ :=
    div_rounds (e := 0) (f := 0) hm (Nat.pow_pos (n := e) (by norm_num : 0 < 10))
  refine ⟨r, g, by simpa using hr, ?_⟩
  have hlarge : ¬ -(e : ℤ) > 2 ^ 11 := by omega
  have hsmall : ¬ -(e : ℤ) < -(2 ^ 11 + m.log2) := by omega
  have hneg : ¬ (0 : ℤ) ≤ -e := by omega
  rw [← hdiv, UnpackedFloat.ofScientific, dif_neg hm.ne', if_neg hlarge, if_neg hsmall,
    if_neg hneg]
  simp only [neg_neg, Int.toNat_natCast]

/-- Small numbers are multiplied with a power of ten that is a double, others rounded as a whole. -/
theorem nearest_ofScientific (hm : 0 < m) (he : e ≤ 2048) :
    Nearest (Float.ofScientific m false e) (m * 10 ^ e) := by
  unfold Float.ofScientific
  split
  next h => exact (exactly_toFloat hm h.1).mul (exactly_powersOfTen _)
  next =>
    obtain ⟨r, g, hr, hround⟩ := ofScientific_rounds hm he
    have h : Float.ofModel (Float.Model.ofScientific m e) = ⟨.pack (normalized r g)⟩ := by
      rw [Float.Model.ofScientific, hround]
    exact h ▸ hr.nearest

theorem nearest_ofScientific_neg (hm : 0 < m) (he : e ≤ 2048 + m.log2) :
    Nearest (Float.ofScientific m true e) (m / 10 ^ e) := by
  unfold Float.ofScientific
  split
  next h => exact (exactly_toFloat hm h.1).div (exactly_powersOfTen _)
  next =>
    obtain ⟨r, g, hr, hround⟩ := ofScientific_rounds_neg hm he
    have h : Float.ofModel (Float.Model.ofScientific m (Int.negOfNat e)) =
        ⟨.pack (normalized r g)⟩ := by
      rw [Float.Model.ofScientific, Int.negOfNat_eq, Int.ofNat_eq_natCast, hround]
    exact h ▸ hr.nearest

end Scientific

section Numerals

/-- The size of a numeral, without its sign. -/
def Scaled.size (d : Scaled) : ℚ := d.mantissa * 10 ^ d.exponent

/-- What lies below half of the least double is nearest to zero. -/
theorem nearest_zero {v : ℚ} (hv : v < 2 ^ (-1075 : ℤ)) : Nearest 0.0 v := by
  have hpow : (0 : ℚ) < 2 ^ (-1075 : ℤ) := by positivity
  have hhalf : (2 : ℚ) ^ (-1074 : ℤ) = 2 * 2 ^ (-1075 : ℤ) := by
    rw [show (-1074 : ℤ) = -1075 + (1 : ℕ) from rfl, two_zpow_add, pow_one]
  have hzero : ∀ m : ℕ, (m - 1 / 2) * (2 : ℚ) ^ (-1074 : ℤ) ≤ v → m ≤ 0 := by
    intro m hm
    by_contra hpos
    have hone : (1 : ℚ) ≤ m := by exact_mod_cast Nat.pos_of_ne_zero (by omega : m ≠ 0)
    rw [hhalf] at hm
    nlinarith
  have hrounds : Rounds v 0 (-1074) :=
    { least := le_rfl
      binade := Or.inl rfl
      below := hv.trans (zpow_lt_zpow_right₀ one_lt_two (by norm_num))
      le := fun m _ => Nat.zero_le m
      ge := fun m hm => hzero m hm.le
      tie := fun m _ hm => hzero m hm }
  exact .finite (hv.trans (two_zpow_lt_overflow (by norm_num))) hrounds rfl

/-- A power of two has about three decimal digits for ten binary ones. -/
theorem two_pow_le_ten_pow {n k : ℕ} (h : n * 302 / 1000 + 2 ≤ k) :
    (2 : ℚ) ^ (n + 1) ≤ 10 ^ k := by
  have hpow : (2 ^ (n + 1)) ^ 93 ≤ (10 ^ k) ^ 93 := by
    calc (2 ^ (n + 1)) ^ 93 = (2 ^ 93) ^ (n + 1) := by rw [← pow_mul, ← pow_mul, mul_comm]
      _ ≤ (10 ^ 28) ^ (n + 1) := Nat.pow_le_pow_left (by norm_num) _
      _ = 10 ^ (28 * (n + 1)) := (pow_mul 10 28 _).symm
      _ ≤ 10 ^ (k * 93) := Nat.pow_le_pow_right (by norm_num) (by omega)
      _ = (10 ^ k) ^ 93 := pow_mul 10 _ 93
  exact_mod_cast (Nat.pow_le_pow_iff_left (by norm_num)).mp hpow

namespace Scaled

theorem overflow_le_size {d : Scaled} (hm : d.mantissa ≠ 0) (he : 400 < d.exponent) :
    overflow ≤ d.size := by
  have hlarge : (2 : ℚ) ^ 1024 ≤ 10 ^ 401 := two_pow_le_ten_pow (n := 1023) (by norm_num)
  have hone : (1 : ℚ) ≤ d.mantissa := by exact_mod_cast Nat.pos_of_ne_zero hm
  calc overflow ≤ 2 ^ (1024 : ℤ) := overflow_lt.le
    _ ≤ 10 ^ (401 : ℤ) := by exact_mod_cast hlarge
    _ ≤ 10 ^ d.exponent := zpow_le_zpow_right₀ (by norm_num) (by omega)
    _ ≤ d.size := le_mul_of_one_le_left (by positivity) hone

theorem size_lt {d : Scaled} (h : d.exponent + (d.mantissa.log2 : ℤ) * 302 / 1000 < -340) :
    d.size < 2 ^ (-1075 : ℤ) := by
  have hmantissa : (d.mantissa : ℚ) < 10 ^ (d.mantissa.log2 * 302 / 1000 + 2) := by
    have hlog : (d.mantissa : ℚ) < 2 ^ (d.mantissa.log2 + 1) := by
      exact_mod_cast Nat.lt_log2_self
    exact hlog.trans_le (two_pow_le_ten_pow le_rfl)
  have hsmall : (10 : ℚ) ^ (-339 : ℤ) ≤ 2 ^ (-1075 : ℤ) := by
    rw [zpow_neg, zpow_neg]
    refine inv_anti₀ (by positivity) ?_
    have hlarge : (2 : ℚ) ^ 1075 ≤ 10 ^ 339 := two_pow_le_ten_pow (n := 1074) (by norm_num)
    exact_mod_cast hlarge
  calc d.size < 10 ^ (d.mantissa.log2 * 302 / 1000 + 2) * 10 ^ d.exponent :=
        mul_lt_mul_of_pos_right hmantissa (by positivity)
    _ = 10 ^ (((d.mantissa.log2 * 302 / 1000 + 2 : ℕ) : ℤ) + d.exponent) := by
        rw [zpow_add₀ (by norm_num), zpow_natCast]
    _ ≤ 10 ^ (-339 : ℤ) := zpow_le_zpow_right₀ (by norm_num) (by omega)
    _ ≤ 2 ^ (-1075 : ℤ) := hsmall

/-- Behind its sign a numeral is read as the double nearest to its size. -/
theorem exists_nearest (d : Scaled) :
    ∃ x, Nearest x d.size ∧ d.toFloat = if d.negative then -x else x := by
  unfold toFloat
  refine ⟨_, ?_, rfl⟩
  split
  next hm =>
    refine nearest_zero ?_
    rw [size, hm, Nat.cast_zero, zero_mul]
    positivity
  next hm =>
    have hpos := Nat.pos_of_ne_zero hm
    split
    next he => exact .infinite (overflow_le_size hm he) rfl
    split
    next hsmall => exact nearest_zero (size_lt hsmall)
    split
    next hneg =>
      have h := nearest_ofScientific_neg (e := d.exponent.natAbs) hpos (by omega)
      have hsize : d.size = d.mantissa / 10 ^ d.exponent.natAbs := by
        rw [size, div_eq_mul_inv, ← zpow_natCast, ← zpow_neg]
        congr 2
        omega
      exact hsize ▸ h
    next hneg =>
      have h := nearest_ofScientific (e := d.exponent.natAbs) hpos (by omega)
      have hsize : d.size = d.mantissa * 10 ^ d.exponent.natAbs := by
        rw [size, ← zpow_natCast]
        congr 2
        omega
      exact hsize ▸ h

theorem isFinite_toFloat (d : Scaled) : d.toFloat.isFinite = true ↔ d.size < overflow := by
  obtain ⟨x, hx, hd⟩ := d.exists_nearest
  rw [hd, ← hx.isFinite]
  split
  · rw [isFinite_neg]
  · rfl

end Scaled

end Numerals

end Gleaner.Decimal
