import Gleaner.Json.Parser
import Gleaner.Proofs.Decimal.Shortest

/-!
Scaling digits that are read. A number of 64 bits times a power of ten is a finite double as long as
it lies at or below the middle between the two greatest doubles (`scale?_some`).
-/
namespace Gleaner.Json
open Float.Model Float.Model.UnpackedFloat Decimal

/-- The 53 leading bits of a number, rounded half up. -/
def leadingBits (n : ℕ) : ℕ := (n * 2 ^ 53 / 2 ^ n.log2 + 1) / 2

/-- Whether the nearest doubles of two numbers have a product below the overflow. -/
def fits (x y : ℕ) : Bool :=
  leadingBits x < 2 ^ 53 && leadingBits y < 2 ^ 53 &&
    leadingBits x * leadingBits y * 2 ^ (x.log2 + y.log2) <
      18014398509481983 * 2 ^ 970 * 2 ^ (52 + 52)

/-- The greatest number that `10 ^ e` scales to no more than `highest`. -/
def most (e : ℕ) : ℕ := 18014398509481981 * 2 ^ 970 / 10 ^ e

theorem fits_most : fits (2 ^ 64) (10 ^ 288) = true ∧
    ∀ k : Fin 20, fits (most (289 + k)) (10 ^ (289 + k.val)) = true := by
  decide +kernel

/-- The nearest double of a number that is no greater ends at its leading bits. -/
theorem exactly_le_leadingBits {n k : ℕ} {x : Float} (hx : Nearest x k) (hk : 0 < k) (hle : k ≤ n)
    (hbits : leadingBits n < 2 ^ 53) (hv : (k : ℚ) < overflow) :
    ∃ q, Exactly x q ∧ q ≤ leadingBits n * 2 ^ (n.log2 - 52 : ℤ) := by
  obtain ⟨q, hq, hqle⟩ := hx.exists_exactly (by exact_mod_cast hk) hv
  have hn : 2 ^ n.log2 ≤ n := Nat.log2_self_le (by omega)
  have hlow : 2 ^ 52 ≤ leadingBits n := by
    have : 2 ^ 53 ≤ n * 2 ^ 53 / 2 ^ n.log2 := by
      rw [Nat.le_div_iff_mul_le (Nat.two_pow_pos _), Nat.mul_comm]
      exact Nat.mul_le_mul_right _ hn
    unfold leadingBits
    omega
  have hmiddle : n * 2 ^ 53 < (2 * leadingBits n + 1) * 2 ^ n.log2 := by
    rw [← Nat.div_lt_iff_lt_mul (Nat.two_pow_pos _)]
    unfold leadingBits
    omega
  refine ⟨q, hq, hqle _ _ hlow hbits (by omega) ?_⟩
  have hkn : (k : ℚ) ≤ n := by exact_mod_cast hle
  have hmiddle : (n : ℚ) * 2 ^ 53 < (2 * leadingBits n + 1) * 2 ^ n.log2 := by
    exact_mod_cast hmiddle
  rw [zpow_sub₀ two_ne_zero, zpow_natCast, mul_div_assoc', lt_div_iff₀ (by positivity)]
  refine lt_of_le_of_lt (mul_le_mul_of_nonneg_right hkn (by positivity)) ?_
  norm_num at hmiddle ⊢
  linarith

theorem isFinite_mul_of_fits {m n j k : ℕ} {x y : Float} (hfits : fits m n = true)
    (hx : Nearest x j) (hj : 0 < j) (hjm : j ≤ m) (hjv : (j : ℚ) < overflow)
    (hy : Nearest y k) (hk : 0 < k) (hkn : k ≤ n) (hkv : (k : ℚ) < overflow) :
    (x * y).isFinite = true := by
  simp only [fits, Bool.and_eq_true, decide_eq_true_eq] at hfits
  obtain ⟨⟨hm, hn⟩, hproduct⟩ := hfits
  obtain ⟨p, hp, hple⟩ := exactly_le_leadingBits hx hj hjm hm hjv
  obtain ⟨q, hq, hqle⟩ := exactly_le_leadingBits hy hk hkn hn hkv
  have hle : p * q ≤
      leadingBits m * 2 ^ (m.log2 - 52 : ℤ) * (leadingBits n * 2 ^ (n.log2 - 52 : ℤ)) := by
    obtain ⟨c, e, -, -, -, rfl⟩ := hq
    exact mul_le_mul hple hqle (mul_nonneg c.cast_nonneg (zpow_nonneg zero_le_two e))
      (mul_nonneg (leadingBits m).cast_nonneg (zpow_nonneg zero_le_two _))
  have hproduct : ((leadingBits m * leadingBits n * 2 ^ (m.log2 + n.log2) : ℕ) : ℚ) <
      (18014398509481983 * 2 ^ 970 * 2 ^ (52 + 52) : ℕ) := by
    exact_mod_cast hproduct
  simp only [Nat.cast_mul, Nat.cast_pow, Nat.cast_ofNat] at hproduct
  rw [(hp.mul hq).isFinite]
  calc p * q
    _ ≤ leadingBits m * 2 ^ (m.log2 - 52 : ℤ) * (leadingBits n * 2 ^ (n.log2 - 52 : ℤ)) := hle
    _ = leadingBits m * leadingBits n * 2 ^ (m.log2 + n.log2) / 2 ^ (52 + 52) := by
        rw [zpow_sub₀ two_ne_zero, zpow_sub₀ two_ne_zero, pow_add, pow_add, zpow_natCast,
          zpow_natCast]
        field_simp
    _ < overflow := by
        rw [overflow_eq, div_lt_iff₀ (pow_pos two_pos _)]
        exact hproduct

/-- The powers of ten below and above the greatest double. -/
theorem powers_near : 10 ^ 308 < 18014398509481983 * 2 ^ 970 ∧
    18014398509481981 * 2 ^ 970 < 10 ^ 309 := by
  decide +kernel

theorem ten_pow_lt_overflow {k : ℕ} (hk : k ≤ 308) : (10 : ℚ) ^ k < overflow := by
  have h : (10 : ℚ) ^ 308 < 18014398509481983 * 2 ^ 970 := by exact_mod_cast powers_near.1
  rw [overflow_eq]
  exact (pow_le_pow_right₀ (by norm_num) hk).trans_lt h

theorem highest_eq : highest = 18014398509481981 * 2 ^ 970 := by
  rw [highest, show (971 : ℤ) = (970 : ℕ) + (1 : ℕ) from rfl, two_zpow_add, zpow_natCast,
    ← mul_assoc]
  congr 1
  norm_num

theorem highest_lt : highest < 10 ^ 309 := by
  rw [highest_eq]
  exact_mod_cast powers_near.2

theorem nearest_powerOfTen {k : ℕ} (hk : k ≤ 308) : Nearest (powerOfTen k) (10 ^ k : ℕ) := by
  have h := nearest_ofScientific one_pos (by omega : k ≤ 2048)
  rw [Nat.cast_one, one_mul] at h
  exact_mod_cast h

theorem isFinite_zero_mul {y : Float} {v : ℚ} (hy : Exactly y v) :
    (Float.ofScientific 0 false 0 * y).isFinite = true := by
  obtain ⟨m, e, hm, hunpack, -⟩ := hy
  have hzero : (Float.ofScientific 0 false 0).toModel = .pack (.zero .positive) := rfl
  have hback := (Canonical.zero .positive).unpack_pack
  change (Float.Model.pack (UnpackedFloat.mul Format.binary64
    (Float.ofScientific 0 false 0).toModel.unpack y.toModel.unpack)).isFinite = true
  rw [hunpack, hzero, hback]
  exact congrArg UnpackedFloat.isFinite hback

/-- Numbers of 64 bits that are scaled to `highest` at most stay finite. The powers of ten up to
`10 ^ 288` scale all of them below the overflow; for each power after it the greatest number that
`highest` allows is looked at. -/
theorem isFinite_scaled {n k : ℕ} (hn : n < 2 ^ 64) (hk : k ≤ 308)
    (h : (n : ℚ) * 10 ^ k ≤ highest) :
    (Float.ofScientific n false 0 * powerOfTen k).isFinite = true := by
  have hpow : 0 < 10 ^ k := Nat.pow_pos (by norm_num)
  have hpowv : ((10 ^ k : ℕ) : ℚ) < overflow := by exact_mod_cast ten_pow_lt_overflow hk
  rcases n.eq_zero_or_pos with rfl | hpos
  · obtain ⟨p, hp, -⟩ := (nearest_powerOfTen hk).exists_exactly (by exact_mod_cast hpow) hpowv
    exact isFinite_zero_mul hp
  have hx : Nearest (Float.ofScientific n false 0) n := by
    have := nearest_ofScientific hpos (Nat.zero_le 2048)
    rwa [pow_zero, mul_one] at this
  have hnv : (n : ℚ) < overflow := by
    have : (n : ℚ) < 2 ^ (64 : ℤ) := by exact_mod_cast hn
    exact this.trans (two_zpow_lt_overflow (by norm_num))
  rcases lt_or_ge k 289 with hsmall | hlarge
  · have hpowle : 10 ^ k ≤ 10 ^ 288 := pow_le_pow_right₀ (by norm_num) (by omega)
    exact isFinite_mul_of_fits fits_most.1 hx hpos hn.le hnv (nearest_powerOfTen hk) hpow hpowle
      hpowv
  · have hmost : n ≤ most k := by
      rw [most, Nat.le_div_iff_mul_le hpow]
      rw [highest_eq] at h
      exact_mod_cast h
    have hfits := fits_most.2 ⟨k - 289, by omega⟩
    rw [show 289 + (k - 289) = k by omega] at hfits
    exact isFinite_mul_of_fits hfits hx hpos hmost hnv (nearest_powerOfTen hk) hpow le_rfl hpowv

theorem isInf_of_isFinite {x : Float} (h : x.isFinite = true) : x.isInf = false := by
  rw [isFinite_eq] at h
  simpa using (Bool.or_eq_false_iff.mp (Bool.not_eq_true' _ ▸ h)).2

theorem scale?_neg (n : ℕ) {e : ℤ} (he : e < 0) : ∃ y, scale? n e = some y := by
  unfold scale?
  dsimp only
  rw [if_neg (by omega)]
  split
  · exact ⟨_, rfl⟩
  split
  · exact ⟨_, rfl⟩
  split
  · exact ⟨_, rfl⟩
  · exact ⟨_, rfl⟩

theorem scale?_some {n : ℕ} {e : ℤ} (hn : n < 2 ^ 64) (h : (n : ℚ) * 10 ^ e ≤ highest) :
    ∃ y, scale? n e = some y := by
  rcases lt_or_ge e 0 with he | he
  · exact scale?_neg n he
  obtain ⟨k, rfl⟩ := Int.eq_ofNat_of_zero_le he
  rw [zpow_natCast] at h
  unfold scale?
  dsimp only
  rw [if_pos he]
  split
  next hk =>
    have hfinite := isFinite_scaled hn (by omega : k ≤ 308) h
    rw [Int.toNat_natCast, isInf_of_isFinite hfinite]
    exact ⟨_, rfl⟩
  next hk =>
    have hzero : n = 0 := by
      by_contra hne
      have hone : (1 : ℚ) ≤ n := by exact_mod_cast Nat.pos_of_ne_zero hne
      have hpow : (10 : ℚ) ^ 309 ≤ 10 ^ k := pow_le_pow_right₀ (by norm_num) (by omega)
      exact absurd (le_mul_of_one_le_left (by positivity) hone)
        (not_le.mpr (h.trans_lt (highest_lt.trans_le hpow)))
    rw [if_pos hzero]
    exact ⟨_, rfl⟩

theorem scale?_greatest : ∃ y, scale? 17976931348623157 292 = some y :=
  Option.isSome_iff_exists.mp (by decide +kernel)

end Gleaner.Json
