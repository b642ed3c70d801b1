import Gleaner.Decimal.Read
import Mathlib

/-!
Rounding to doubles. A mantissa with its two residual bits stands for a rational number (`Stands`),
and keeps standing for it when it is shifted; so what rounding makes of it is the nearest number of
53 bits (`Rounds`), which is a finite double just below `overflow`.
-/
namespace Gleaner.Decimal
open Float.Model Float.Model.UnpackedFloat

/-- A mantissa with its residual bits stands for a value: the mantissa is its whole part, the round
bit tells whether the value reaches the middle above it, the sticky bit whether it is off both. -/
structure Stands (em : ExtendedMantissa) (v : ℚ) : Prop where
  floor : (em.mantissa : ℚ) ≤ v
  next : v < em.mantissa + 1
  middle : em.roundBit = true ↔ (em.mantissa : ℚ) + 1 / 2 ≤ v
  off : em.stickyBit = true ↔ v ≠ em.mantissa ∧ v ≠ em.mantissa + 1 / 2

theorem stands_exact (m : ℕ) : Stands (.ofMantissaAndAccuracy m .exact) m := by
  constructor <;> norm_num [ExtendedMantissa.ofMantissaAndAccuracy]

/-- A quotient with its remainder, as division hands it to rounding. -/
theorem stands_fraction (m : ℕ) {num den : ℕ} (h : num < den) :
    Stands (.ofMantissaAndAccuracy m (accuracyOfFraction num den)) (m + num / den) := by
  have hden : (0 : ℚ) < den := by exact_mod_cast Nat.zero_lt_of_lt h
  by_cases hzero : num = 0
  · subst hzero
    simpa [accuracyOfFraction] using stands_exact m
  have hpos : (0 : ℚ) < num / den := by
    have : (0 : ℚ) < num := by exact_mod_cast Nat.pos_of_ne_zero hzero
    positivity
  have hlt : (num : ℚ) / den < 1 := by
    rw [div_lt_one hden]
    exact_mod_cast h
  rw [accuracyOfFraction, if_neg hzero]
  rcases lt_trichotomy (2 * num) den with hc | hc | hc
  · have hbelow : (num : ℚ) / den < 1 / 2 := by
      rw [div_lt_div_iff₀ hden two_pos, one_mul, mul_comm]
      exact_mod_cast hc
    rw [Nat.compare_eq_lt.mpr hc]
    refine ⟨?_, ?_, ?_, ?_⟩ <;> simp only [ExtendedMantissa.ofMantissaAndAccuracy]
    · linarith
    · linarith
    · exact iff_of_false Bool.false_ne_true (by linarith)
    · exact iff_of_true trivial ⟨by linarith, by linarith⟩
  · have hhalf : (num : ℚ) / den = 1 / 2 := by
      rw [div_eq_div_iff hden.ne' two_ne_zero, one_mul, mul_comm]
      exact_mod_cast hc
    rw [Nat.compare_eq_eq.mpr hc, hhalf]
    refine ⟨?_, ?_, ?_, ?_⟩ <;> simp only [ExtendedMantissa.ofMantissaAndAccuracy]
    · linarith
    · linarith
    · simp
    · simp
  · have habove : (1 : ℚ) / 2 < num / den := by
      rw [div_lt_div_iff₀ two_pos hden, one_mul, mul_comm]
      exact_mod_cast hc
    rw [Nat.compare_eq_gt.mpr hc]
    refine ⟨?_, ?_, ?_, ?_⟩ <;> simp only [ExtendedMantissa.ofMantissaAndAccuracy]
    · linarith
    · linarith
    · exact iff_of_true trivial (by linarith)
    · exact iff_of_true trivial ⟨by linarith, by linarith⟩

namespace Stands

variable {em : ExtendedMantissa} {v : ℚ}

theorem residue (h : Stands em v) : (em.roundBit || em.stickyBit) = true ↔ v ≠ em.mantissa := by
  rw [Bool.or_eq_true, h.middle, h.off]
  constructor
  · rintro (hv | ⟨hv, -⟩)
    · linarith
    · exact hv
  · intro hv
    by_cases hm : v = em.mantissa + 1 / 2
    · exact Or.inl hm.ge
    · exact Or.inr ⟨hv, hm⟩

theorem shiftRightOne (h : Stands em v) : Stands em.shiftRightOne (v / 2) := by
  have hfloor := h.floor
  have hnext := h.next
  have hresidue := h.residue
  have hdiv : (em.mantissa : ℚ) = 2 * (em.mantissa / 2 : ℕ) + (em.mantissa % 2 : ℕ) := by
    exact_mod_cast (Nat.div_add_mod em.mantissa 2).symm
  -- the bit shifted out of the mantissa is the new round bit
  rcases Nat.mod_two_eq_zero_or_one em.mantissa with hbit | hbit
  all_goals
    rw [hbit] at hdiv
    push_cast at hdiv
    constructor <;> simp only [ExtendedMantissa.shiftRightOne, hbit]
  · linarith
  · linarith
  · simpa using by linarith
  · rw [hresidue]
    constructor
    · intro hv
      exact ⟨fun he => hv (by linarith), by linarith⟩
    · rintro ⟨hv, -⟩ he
      exact hv (by linarith)
  · linarith
  · linarith
  · simpa using by linarith
  · rw [hresidue]
    constructor
    · intro hv
      exact ⟨by linarith, fun he => hv (by linarith)⟩
    · rintro ⟨-, hv⟩ he
      exact hv (by linarith)

theorem shiftRight (h : Stands em v) (n : ℕ) : Stands (em >>> n) (v / 2 ^ n) := by
  change Stands (n.repeat ExtendedMantissa.shiftRightOne em) _
  induction n with
  | zero => simpa [Nat.repeat] using h
  | succ n ih =>
    rw [Nat.repeat, pow_succ, ← div_div]
    exact ih.shiftRightOne

theorem roundedMantissa_le (h : Stands em v) {m : ℕ} (hv : v < m + 1 / 2) :
    em.roundedMantissa ≤ m := by
  obtain ⟨k, half, off⟩ := em
  obtain ⟨hfloor, hnext, hmiddle, hoff⟩ := h
  dsimp only at hfloor hnext hmiddle hoff
  have hk : k ≤ m := by
    have : (k : ℚ) < (m + 1 : ℕ) := by push_cast; linarith
    exact Nat.lt_succ_iff.mp (by exact_mod_cast this)
  cases half with
  | false => cases off <;> exact hk
  | true =>
    have hlt : k < m := by
      have : (k : ℚ) < m := by linarith [hmiddle.mp rfl]
      exact_mod_cast this
    cases off with
    | false =>
      change k + k % 2 ≤ m
      omega
    | true => exact hlt

theorem le_roundedMantissa (h : Stands em v) {m : ℕ} (hv : (m : ℚ) - 1 / 2 < v) :
    m ≤ em.roundedMantissa := by
  obtain ⟨k, half, off⟩ := em
  obtain ⟨hfloor, hnext, hmiddle, hoff⟩ := h
  dsimp only at hfloor hnext hmiddle hoff
  by_cases hk : m ≤ k
  · cases half <;> cases off <;>
      simp only [ExtendedMantissa.roundedMantissa, ExtendedMantissa.accuracy,
        Accuracy.roundToNearestEven] <;> omega
  · -- only a value above the middle leaves `m` above the mantissa
    have hsucc : (k : ℚ) + 1 ≤ m := by exact_mod_cast not_le.mp hk
    have hm : m ≤ k + 1 := by
      have : (m : ℚ) < (k + 2 : ℕ) := by push_cast; linarith
      exact Nat.lt_succ_iff.mp (by exact_mod_cast this)
    obtain rfl : half = true := hmiddle.mpr (by linarith)
    obtain rfl : off = true := hoff.mpr ⟨by linarith, by linarith⟩
    exact hm

theorem le_roundedMantissa_of_even (h : Stands em v) {m : ℕ} (heven : m % 2 = 0)
    (hv : (m : ℚ) - 1 / 2 ≤ v) : m ≤ em.roundedMantissa := by
  rcases hv.lt_or_eq with hv | rfl
  · exact h.le_roundedMantissa hv
  obtain ⟨k, half, off⟩ := em
  obtain ⟨hfloor, hnext, hmiddle, hoff⟩ := h
  dsimp only at hfloor hnext hmiddle hoff
  obtain rfl : m = k + 1 := by
    have hlow : (m : ℚ) < (k + 2 : ℕ) := by push_cast; linarith
    have hhigh : (k : ℚ) < m := by linarith
    exact Nat.le_antisymm (Nat.lt_succ_iff.mp (by exact_mod_cast hlow)) (by exact_mod_cast hhigh)
  push_cast at hmiddle
  obtain rfl : half = true := hmiddle.mpr (by linarith)
  cases off with
  | false =>
    change k + 1 ≤ k + k % 2
    omega
  | true => exact le_rfl

end Stands

theorem two_zpow_add (g : ℤ) (n : ℕ) : (2 : ℚ) ^ (g + n) = 2 ^ n * 2 ^ g := by
  rw [zpow_add₀ two_ne_zero, zpow_natCast, mul_comm]

/-- What a value rounds to: `significand · 2 ^ exponent`, before an exponent too large for a double
makes it infinite. The significand has 53 bits, fewer only at the least exponent; 54 after a
carry. -/
structure Rounds (v : ℚ) (significand : ℕ) (exponent : ℤ) : Prop where
  least : -1074 ≤ exponent
  binade : exponent = -1074 ∨ (2 : ℚ) ^ (exponent + 52) ≤ v
  below : v < 2 ^ (exponent + 53)
  le : ∀ m : ℕ, v < (m + 1 / 2) * 2 ^ exponent → significand ≤ m
  ge : ∀ m : ℕ, (m - 1 / 2) * 2 ^ exponent < v → m ≤ significand
  tie : ∀ m : ℕ, m % 2 = 0 → (m - 1 / 2) * 2 ^ exponent ≤ v → m ≤ significand

theorem Stands.rounds {em : ExtendedMantissa} {v : ℚ} {g : ℤ} (h : Stands em v) (hg : -1074 ≤ g)
    (hbinade : g = -1074 ∨ (2 : ℚ) ^ 52 ≤ v) (hbelow : v < 2 ^ 53) :
    Rounds (v * 2 ^ g) em.roundedMantissa g := by
  have hpow : (0 : ℚ) < 2 ^ g := by positivity
  refine ⟨hg, hbinade.imp_right fun hv => ?_, ?_, fun m hm => ?_, fun m hm => ?_,
    fun m heven hm => ?_⟩
  · rw [show g + 52 = g + (52 : ℕ) from rfl, two_zpow_add]
    exact mul_le_mul_of_nonneg_right hv hpow.le
  · rw [show g + 53 = g + (53 : ℕ) from rfl, two_zpow_add]
    exact mul_lt_mul_of_pos_right hbelow hpow
  · exact h.roundedMantissa_le (lt_of_mul_lt_mul_right hm hpow.le)
  · exact h.le_roundedMantissa (lt_of_mul_lt_mul_right hm hpow.le)
  · exact h.le_roundedMantissa_of_even heven (le_of_mul_le_mul_right hm hpow)

/-- The positive double with a rounded value. A carry out of 53 bits goes into the exponent. -/
def normalized (significand : ℕ) (exponent : ℤ) : UnpackedFloat :=
  if h : significand = 0 then .zero .positive
  else if significand = 2 ^ 53 then .finite .positive (2 ^ 52) (exponent + 1) (by decide)
  else .finite .positive significand exponent (Nat.pos_of_ne_zero h)

namespace Rounds

variable {v : ℚ} {r : ℕ} {g : ℤ}

theorem le_two_pow (h : Rounds v r g) : r ≤ 2 ^ 53 := by
  refine h.le (2 ^ 53) ?_
  have hpow : (0 : ℚ) < 2 ^ g := by positivity
  have hbelow := h.below
  rw [show g + 53 = g + (53 : ℕ) from rfl, two_zpow_add] at hbelow
  push_cast
  linarith

theorem two_pow_le (h : Rounds v r g) (hv : (2 : ℚ) ^ (g + 52) ≤ v) : 2 ^ 52 ≤ r := by
  refine h.ge (2 ^ 52) ?_
  have hpow : (0 : ℚ) < 2 ^ g := by positivity
  rw [show g + 52 = g + (52 : ℕ) from rfl, two_zpow_add] at hv
  push_cast
  linarith

/-- A value of at most 53 bits stays as it is. -/
theorem eq_of_exact (h : Rounds v r g) {m : ℕ} (hv : v = m * 2 ^ g) : r = m := by
  have hpow : (0 : ℚ) < 2 ^ g := by positivity
  exact Nat.le_antisymm (h.le m (by linarith)) (h.ge m (by linarith))

end Rounds

section Carry

theorem targetExponent_eq (m : ℕ) (e : ℤ) :
    Format.binary64.targetExponent (totalExponent m e) = max ((m.log2 : ℤ) + e - 52) (-1074) := by
  simp only [Format.targetExponent, totalExponent, Format.mantissaBits, Format.minExponent]
  norm_num
  omega

theorem shiftToTargetExponent_small {r : ℕ} {g : ℤ} (hr : r < 2 ^ 53) (hg : -1074 ≤ g) :
    shiftToTargetExponent Format.binary64 r g .exact = (⟨r, false, false⟩, g) := by
  have hlog : r.log2 < 53 := by
    by_cases h : r = 0
    · simp [h]
    · exact (Nat.log2_lt h).mpr hr
  have hshift : (Format.binary64.targetExponent (totalExponent r g) - g).toNat = 0 := by
    rw [targetExponent_eq]
    omega
  simp only [shiftToTargetExponent, shiftToExponent, hshift]
  simp [ExtendedMantissa.ofMantissaAndAccuracy, HShiftRight.hShiftRight, Nat.repeat]

theorem shiftToTargetExponent_carry {g : ℤ} (hg : -1074 ≤ g) :
    shiftToTargetExponent Format.binary64 (2 ^ 53) g .exact = (⟨2 ^ 52, false, false⟩, g + 1) := by
  have hshift : (Format.binary64.targetExponent (totalExponent (2 ^ 53) g) - g).toNat = 1 := by
    rw [targetExponent_eq, Nat.log2_two_pow]
    omega
  simp only [shiftToTargetExponent, shiftToExponent, hshift]
  simp [ExtendedMantissa.ofMantissaAndAccuracy, HShiftRight.hShiftRight, Nat.repeat,
    ExtendedMantissa.shiftRightOne]

/-- After a shift that leaves at most 53 bits, only a carry shifts once more. -/
theorem roundWithAccuracy_of_shift {m : ℕ} {e g : ℤ} {acc : Accuracy} {em : ExtendedMantissa}
    (hshift : shiftToTargetExponent Format.binary64 m e acc = (em, g))
    (hbits : em.roundedMantissa ≤ 2 ^ 53) (hg : -1074 ≤ g) :
    roundWithAccuracy Format.binary64 .positive m e acc = normalized em.roundedMantissa g := by
  rw [roundWithAccuracy, hshift]
  dsimp only
  generalize em.roundedMantissa = r at *
  rcases Nat.lt_or_eq_of_le hbits with hlt | rfl
  · rw [shiftToTargetExponent_small hlt hg]
    simp only [normalized, hlt.ne, if_false]
  · rw [shiftToTargetExponent_carry hg]
    rfl

end Carry

theorem mantissa_ofMantissaAndAccuracy (m : ℕ) (acc : Accuracy) :
    (ExtendedMantissa.ofMantissaAndAccuracy m acc).mantissa = m := by
  cases acc with
  | exact => rfl
  | inexact o => cases o <;> rfl

/-- A value that is known to 53 bits, or down to the least exponent, is rounded to the nearest. -/
theorem roundWithAccuracy_rounds {m : ℕ} {e : ℤ} {acc : Accuracy} {v : ℚ}
    (hv : Stands (.ofMantissaAndAccuracy m acc) v) (hbits : 2 ^ 52 ≤ m ∨ e ≤ -1074) :
    ∃ r g, Rounds (v * 2 ^ e) r g ∧
      roundWithAccuracy Format.binary64 .positive m e acc = normalized r g := by
  -- The exponent that the format gives the value, `k` bits above the one at hand.
  obtain ⟨g, hg⟩ : ∃ g, g = max ((m.log2 : ℤ) + e - 52) (-1074) := ⟨_, rfl⟩
  have hlog : 2 ^ 52 ≤ m → 52 ≤ m.log2 := fun hm => (Nat.le_log2 (by omega)).mpr hm
  obtain ⟨k, hk⟩ : ∃ k : ℕ, g = e + k := ⟨(g - e).toNat, by omega⟩
  have hfloor := hv.floor
  have hnext := hv.next
  rw [mantissa_ofMantissaAndAccuracy] at hfloor hnext
  have hhigh : v < (2 : ℚ) ^ (m.log2 + 1) := by
    have : ((m + 1 : ℕ) : ℚ) ≤ (2 ^ (m.log2 + 1) : ℕ) := by exact_mod_cast Nat.lt_log2_self
    push_cast at this
    linarith
  have hpow : (0 : ℚ) < 2 ^ k := by positivity
  have hrounds : Rounds (v / 2 ^ k * 2 ^ g)
      ((ExtendedMantissa.ofMantissaAndAccuracy m acc) >>> k).roundedMantissa g := by
    refine (hv.shiftRight k).rounds (by omega) ?_ ?_
    · by_cases hsmall : g = -1074
      · exact Or.inl hsmall
      · right
        have hm : m ≠ 0 := by
          rintro rfl
          rw [Nat.log2_zero] at hg
          omega
        rw [le_div_iff₀ hpow, ← pow_add]
        calc (2 : ℚ) ^ (52 + k) ≤ 2 ^ m.log2 := pow_le_pow_right₀ one_le_two (by omega)
          _ ≤ m := by exact_mod_cast Nat.log2_self_le hm
          _ ≤ v := hfloor
    · rw [div_lt_iff₀ hpow, ← pow_add]
      exact hhigh.trans_le (pow_le_pow_right₀ one_le_two (by omega))
  have hvalue : v / 2 ^ k * 2 ^ g = v * 2 ^ e := by
    rw [hk, two_zpow_add, ← mul_assoc, div_mul_cancel₀ v hpow.ne']
  refine ⟨_, g, hvalue ▸ hrounds, roundWithAccuracy_of_shift ?_ hrounds.le_two_pow hrounds.least⟩
  have hshift : (max ((m.log2 : ℤ) + e - 52) (-1074) - e).toNat = k := by omega
  simp only [shiftToTargetExponent, shiftToExponent, targetExponent_eq, hshift]
  rw [hk]

section Bits

/-- The finite doubles: zeros, numbers of 53 bits, and shorter ones at the least exponent. -/
inductive Canonical : UnpackedFloat → Prop
  | zero (s : Sign) : Canonical (.zero s)
  | finite {s : Sign} {m : ℕ} {e : ℤ} (hpos : 0 < m) (hbits : m < 2 ^ 53) (hleast : -1074 ≤ e)
      (hmost : e ≤ 971) (hfull : 2 ^ 52 ≤ m ∨ e = -1074) : Canonical (.finite s m e hpos)

theorem append_implicit (m : BitVec 52) : (1#1 ++ m).toNat = 2 ^ 52 + m.toNat := by
  rw [BitVec.toNat_append, ← Nat.shiftLeft_add_eq_or_of_lt m.isLt]
  rfl

variable {s : Sign} {m : ℕ} {e : ℤ}

/-- The bits of a finite double, with the exponent of the format written out. -/
theorem pack_finite (hpos : 0 < m) : UnpackedFloat.pack Format.binary64 (.finite s m e hpos) =
    if 2 ^ 11 ≤ (e + 1023 + 52).toNat + 1 then packedInfinity Format.binary64 s
    else if m.log2 + 1 = 53 then
      packComponents Format.binary64 s (BitVec.ofNat 11 (e + 1023 + 52).toNat) (BitVec.ofNat 52 m)
    else packComponents Format.binary64 s 0#11 (BitVec.ofNat 52 m) := rfl

/-- With its leading bit left out, a number of 53 bits takes one of the middle exponents. -/
theorem unpack_pack_normal (hpos : 0 < m) (hfull : 2 ^ 52 ≤ m) (hbits : m < 2 ^ 53)
    (hleast : -1074 ≤ e) (hmost : e ≤ 971) :
    (Float.Model.pack (.finite s m e hpos)).unpack = .finite s m e hpos := by
  change UnpackedFloat.unpack Format.binary64 (UnpackedFloat.pack Format.binary64 _) = _
  have hlog : m.log2 + 1 = 53 := by
    rw [(Nat.log2_eq_iff hpos.ne').mpr ⟨hfull, hbits⟩]
  have hexponent : (BitVec.ofNat 11 (e + 1023 + 52).toNat).toNat = (e + 1023 + 52).toNat := by
    rw [BitVec.toNat_ofNat, Nat.mod_eq_of_lt (by omega)]
  have hones : BitVec.ofNat 11 (e + 1023 + 52).toNat ≠ -1#11 := by
    intro h
    have h : _ = 2047 := hexponent ▸ congrArg BitVec.toNat h
    omega
  have hzero : BitVec.ofNat 11 (e + 1023 + 52).toNat ≠ 0#11 := by
    intro h
    have h : _ = 0 := hexponent ▸ congrArg BitVec.toNat h
    omega
  have hmantissa : (1#1 ++ BitVec.ofNat 52 m).toNat = m := by
    rw [append_implicit, BitVec.toNat_ofNat]
    omega
  rw [pack_finite, if_neg (by omega), if_pos hlog]
  simp only [UnpackedFloat.unpack, unpackMantissa_packComponents, unpackExponent_packComponents,
    unpackSign_packComponents, Sign.ofBitVec_toBitVec, hones, hzero, if_false, hmantissa,
    hexponent]
  congr 1
  change ((e + 1023 + 52).toNat : ℤ) - (1023 + 52) = e
  omega

theorem unpack_pack_subnormal (hpos : 0 < m) (hbits : m < 2 ^ 52) :
    (Float.Model.pack (.finite s m (-1074) hpos)).unpack = .finite s m (-1074) hpos := by
  change UnpackedFloat.unpack Format.binary64 (UnpackedFloat.pack Format.binary64 _) = _
  have hlog : ¬ m.log2 + 1 = 53 := by
    have := (Nat.log2_lt hpos.ne').mpr hbits
    omega
  have hmantissa : (BitVec.ofNat 52 m).toNat = m := by
    rw [BitVec.toNat_ofNat, Nat.mod_eq_of_lt hbits]
  have hzero : BitVec.ofNat 52 m ≠ 0#52 := by
    intro h
    have h : m = 0 := hmantissa ▸ congrArg BitVec.toNat h
    exact hpos.ne' h
  have hones : 0#11 ≠ -1#11 := by decide
  rw [pack_finite, if_neg (by omega), if_neg hlog]
  simp only [UnpackedFloat.unpack, unpackMantissa_packComponents, unpackExponent_packComponents,
    unpackSign_packComponents, Sign.ofBitVec_toBitVec, hones, hzero, if_false, if_true, hmantissa,
    dite_false]
  rfl

theorem unpack_pack_finite (hpos : 0 < m) (hbits : m < 2 ^ 53) (hleast : -1074 ≤ e)
    (hmost : e ≤ 971) (hfull : 2 ^ 52 ≤ m ∨ e = -1074) :
    (Float.Model.pack (.finite s m e hpos)).unpack = .finite s m e hpos := by
  by_cases hnormal : 2 ^ 52 ≤ m
  · exact unpack_pack_normal hpos hnormal hbits hleast hmost
  · obtain rfl := hfull.resolve_left hnormal
    exact unpack_pack_subnormal hpos (not_le.mp hnormal)

theorem unpack_pack_of_large (hpos : 0 < m) (h : 972 ≤ e) :
    (Float.Model.pack (.finite s m e hpos)).unpack = .infinity s := by
  change UnpackedFloat.unpack Format.binary64 (UnpackedFloat.pack Format.binary64 _) = _
  rw [pack_finite, if_pos (by omega)]
  cases s <;> rfl

theorem toNat_unpackExponent (b : BitVec 64) :
    (@unpackExponent Format.binary64 b).toNat = b.toNat / 2 ^ 52 % 2 ^ 11 := by
  simp [unpackExponent, BitVec.extractLsb_toNat, Nat.shiftRight_eq_div_pow]

theorem unpackExponent_eq_iff {b : BitVec 64} (x : BitVec 11) :
    @unpackExponent Format.binary64 b = x ↔ b.toNat / 2 ^ 52 % 2 ^ 11 = x.toNat := by
  rw [← toNat_unpackExponent, ← BitVec.toNat_inj]

/-- Bits with an exponent below the greatest mean a finite double. -/
theorem canonical_unpack {b : BitVec 64} (h : b.toNat / 2 ^ 52 % 2 ^ 11 ≠ 2047) :
    Canonical (UnpackedFloat.unpack Format.binary64 b) := by
  have hmantissa : (@unpackMantissa Format.binary64 b).toNat < 2 ^ 52 := BitVec.isLt _
  have hones : @unpackExponent Format.binary64 b ≠ -1#11 :=
    mt (unpackExponent_eq_iff (-1#11)).mp h
  unfold UnpackedFloat.unpack
  dsimp only
  rw [if_neg hones]
  split
  next hz =>
    split
    next => exact .zero _
    next =>
      have hexponent : ((@unpackExponent Format.binary64 b).toNat : ℤ) -
          (1023 + 52) + 1 = -1074 := by
        rw [hz]
        rfl
      exact .finite _ (by omega) hexponent.ge (hexponent.trans_le (by omega)) (Or.inr hexponent)
  next hz =>
    have hne := mt (unpackExponent_eq_iff 0#11).mpr hz
    have hexponent : ((@unpackExponent Format.binary64 b).toNat : ℤ) - (1023 + 52) =
        ((b.toNat / 2 ^ 52 % 2 ^ 11 : ℕ) : ℤ) - 1075 := by
      rw [toNat_unpackExponent]
      rfl
    change b.toNat / 2 ^ 52 % 2 ^ 11 ≠ 0 at hne
    refine .finite _ ?_ (hexponent.ge.trans' (by omega)) (hexponent.trans_le (by omega)) (Or.inl ?_)
    · rw [append_implicit]
      omega
    · rw [append_implicit]
      omega

theorem isFinite_unpack {b : BitVec 64} (h : b.toNat / 2 ^ 52 % 2 ^ 11 = 2047) :
    (UnpackedFloat.unpack Format.binary64 b).isFinite = false := by
  have hones : @unpackExponent Format.binary64 b = -1#11 :=
    (unpackExponent_eq_iff (-1#11)).mpr h
  unfold UnpackedFloat.unpack
  dsimp only
  rw [if_pos hones]
  split <;> rfl

namespace Canonical

variable {u : UnpackedFloat}

theorem isFinite (h : Canonical u) : u.isFinite = true := by
  cases h <;> rfl

theorem neg (h : Canonical u) : Canonical u.neg := by
  cases h with
  | zero s => exact .zero _
  | finite hpos hbits hleast hmost hfull => exact .finite hpos hbits hleast hmost hfull

/-- Finite doubles come back from their bits. -/
theorem unpack_pack (h : Canonical u) : (Float.Model.pack u).unpack = u := by
  cases h with
  | zero s => cases s <;> rfl
  | finite hpos hbits hleast hmost hfull => exact unpack_pack_finite hpos hbits hleast hmost hfull

end Canonical

theorem isFinite_eq (x : Float) : x.isFinite = !(x.isNaN || x.isInf) := by
  change x.toModel.unpack.isFinite = !(x.toModel.unpack.isNaN || x.toModel.unpack.isInf)
  cases x.toModel.unpack <;> rfl

/-- Finite are the doubles with an exponent below the greatest. -/
theorem isFinite_iff_bits {x : Float} :
    x.isFinite = true ↔ x.toBits.toNat / 2 ^ 52 % 2 ^ 11 ≠ 2047 := by
  change (UnpackedFloat.unpack Format.binary64 x.toBits.toBitVec).isFinite = true ↔ _
  constructor
  · intro h hbits
    exact Bool.false_ne_true ((isFinite_unpack hbits).symm.trans h)
  · intro h
    exact (canonical_unpack h).isFinite

theorem canonical_of_isFinite {x : Float} (h : x.isFinite = true) : Canonical x.toModel.unpack :=
  canonical_unpack (isFinite_iff_bits.mp h)

end Bits

/-- The least value that rounds to infinity, midway between the greatest double and `2 ^ 1024`. -/
def overflow : ℚ := (2 ^ 53 - 1 / 2) * 2 ^ (971 : ℤ)

theorem overflow_eq : overflow = 18014398509481983 * 2 ^ 970 := by
  rw [overflow, show (971 : ℤ) = (970 : ℕ) + (1 : ℕ) from rfl, two_zpow_add, zpow_natCast,
    ← mul_assoc]
  congr 1
  norm_num

theorem overflow_lt : overflow < 2 ^ (1024 : ℤ) := by
  have hpow : (0 : ℚ) < 2 ^ (971 : ℤ) := by positivity
  rw [show (1024 : ℤ) = 971 + (53 : ℕ) from rfl, two_zpow_add, overflow]
  exact mul_lt_mul_of_pos_right (by norm_num) hpow

theorem two_zpow_lt_overflow {n : ℤ} (h : n ≤ 1023) : (2 : ℚ) ^ n < overflow := by
  have hpow : (0 : ℚ) < 2 ^ (971 : ℤ) := by positivity
  refine (zpow_le_zpow_right₀ one_le_two h).trans_lt ?_
  rw [show (1023 : ℤ) = 971 + (52 : ℕ) from rfl, two_zpow_add, overflow]
  exact mul_lt_mul_of_pos_right (by norm_num) hpow

theorem overflow_pos : 0 < overflow :=
  (zpow_pos two_pos 0).trans (two_zpow_lt_overflow (by norm_num))

namespace Rounds

variable {v : ℚ} {r : ℕ} {g : ℤ}

theorem exponent_le (h : Rounds v r g) (hv : v < overflow) : g ≤ 970 ∨ g = 971 ∧ r < 2 ^ 53 := by
  by_contra hnot
  have hbinade : (2 : ℚ) ^ (g + 52) ≤ v := h.binade.resolve_left (by omega)
  by_cases hg : g = 971
  · subst hg
    have hr : r ≤ 2 ^ 53 - 1 := by
      refine h.le (2 ^ 53 - 1) (hv.trans_eq ?_)
      rw [overflow, Nat.cast_sub (by norm_num)]
      congr 1
      norm_num
    omega
  · have hlarge : (2 : ℚ) ^ (1024 : ℤ) ≤ v :=
      (zpow_le_zpow_right₀ one_le_two (by omega)).trans hbinade
    linarith [overflow_lt]

/-- Below the overflow the rounded value is a finite double. -/
theorem canonical (h : Rounds v r g) (hv : v < overflow) : Canonical (normalized r g) := by
  have hleast := h.least
  have hle := h.le_two_pow
  have hmost := h.exponent_le hv
  unfold normalized
  split
  · exact .zero _
  split
  · exact .finite _ (by omega) (by omega) (by omega) (Or.inl le_rfl)
  · exact .finite _ (by omega) hleast (by omega) (h.binade.symm.imp_left h.two_pow_le)

/-- From the overflow on the rounded value is packed as infinity. -/
theorem unpack_pack_overflow (h : Rounds v r g) (hv : overflow ≤ v) :
    (Float.Model.pack (normalized r g)).unpack = .infinity .positive := by
  have hg : 971 ≤ g := by
    by_contra hg
    linarith [h.below, two_zpow_lt_overflow (by omega : g + 53 ≤ 1023)]
  have hbits := h.two_pow_le (h.binade.resolve_left (by omega))
  have hcarry : g = 971 → r = 2 ^ 53 := by
    rintro rfl
    refine Nat.le_antisymm h.le_two_pow (h.tie (2 ^ 53) (by norm_num) ?_)
    rw [Nat.cast_pow, Nat.cast_ofNat]
    exact hv
  unfold normalized
  split
  next => omega
  split
  next => exact unpack_pack_of_large _ (by omega)
  next hr =>
    have : g ≠ 971 := fun hg => hr (hcarry hg)
    exact unpack_pack_of_large _ (by omega)

/-- Rounding does not pass a number of 53 bits that the value is no nearer above than the middle. -/
theorem value_le (h : Rounds v r g) {m : ℕ} {f : ℤ} (hlow : 2 ^ 52 ≤ m) (hhigh : m < 2 ^ 53)
    (hf : -1074 ≤ f) (hv : v < (m + 1 / 2) * 2 ^ f) : (r : ℚ) * 2 ^ g ≤ m * 2 ^ f := by
  have hpow : (0 : ℚ) < 2 ^ f := by positivity
  have hmiddle : (m : ℚ) + 1 / 2 < 2 ^ 53 := by
    have : ((m + 1 : ℕ) : ℚ) ≤ (2 ^ 53 : ℕ) := by exact_mod_cast hhigh
    push_cast at this
    linarith
  have hg : g ≤ f := by
    rcases h.binade with hg | hbinade
    · omega
    · have hlt : (2 : ℚ) ^ (g + 52) < 2 ^ (f + 53) := by
        rw [show f + 53 = f + (53 : ℕ) from rfl, two_zpow_add]
        exact hbinade.trans_lt (hv.trans (mul_lt_mul_of_pos_right hmiddle hpow))
      have := (zpow_lt_zpow_iff_right₀ one_lt_two).mp hlt
      omega
  rcases hg.lt_or_eq with hg | rfl
  · calc (r : ℚ) * 2 ^ g ≤ 2 ^ 53 * 2 ^ g := by
          have : (r : ℚ) ≤ 2 ^ 53 := by exact_mod_cast h.le_two_pow
          exact mul_le_mul_of_nonneg_right this (by positivity)
      _ = 2 ^ (g + 53) := (two_zpow_add g 53).symm
      _ ≤ 2 ^ (f + 52) := zpow_le_zpow_right₀ one_le_two (by omega)
      _ = 2 ^ 52 * 2 ^ f := two_zpow_add f 52
      _ ≤ m * 2 ^ f := mul_le_mul_of_nonneg_right (by exact_mod_cast hlow) hpow.le
  · exact mul_le_mul_of_nonneg_right (by exact_mod_cast h.le m hv) hpow.le

/-- A value from the middle below a power of two on rounds to no less than that power. -/
theorem le_value (h : Rounds v r g) {f : ℤ} (hf : -1074 ≤ f)
    (hv : (2 ^ 53 - 1 / 2) * 2 ^ f ≤ v) : 2 ^ 53 * 2 ^ f ≤ (r : ℚ) * 2 ^ g := by
  have hpow : (0 : ℚ) < 2 ^ f := by positivity
  have hg : f ≤ g := by
    have hlt : (2 : ℚ) ^ (f + 52) < 2 ^ (g + 53) := by
      rw [show f + 52 = f + (52 : ℕ) from rfl, two_zpow_add]
      exact (mul_lt_mul_of_pos_right (by norm_num) hpow).trans_le (hv.trans h.below.le)
    have := (zpow_lt_zpow_iff_right₀ one_lt_two).mp hlt
    omega
  rcases hg.lt_or_eq with hg | rfl
  · have hbits := h.two_pow_le (h.binade.resolve_left (by omega))
    calc (2 : ℚ) ^ 53 * 2 ^ f = 2 ^ (f + 53) := (two_zpow_add f 53).symm
      _ ≤ 2 ^ (g + 52) := zpow_le_zpow_right₀ one_le_two (by omega)
      _ = 2 ^ 52 * 2 ^ g := two_zpow_add g 52
      _ ≤ r * 2 ^ g := mul_le_mul_of_nonneg_right (by exact_mod_cast hbits) (by positivity)
  · refine mul_le_mul_of_nonneg_right ?_ hpow.le
    exact_mod_cast h.tie (2 ^ 53) (by norm_num) (by exact_mod_cast hv)

end Rounds

end Gleaner.Decimal
