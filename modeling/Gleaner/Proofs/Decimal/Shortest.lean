import Gleaner.Decimal.Layout
import Gleaner.Proofs.Decimal.Double

/-!
What is printed for a double is no further above it than the middle to the next double, whether or
not a decimal of at most 17 digits is found. That middle is at most `highest` for every finite
double but the greatest (`ofBits_le`), whose decimal is looked at by itself (`shortest_greatest`).
-/
namespace Gleaner.Decimal

/-- Of two neighbours the one that is chosen lies inside. -/
theorem inside_of_chosen (inside : ℕ → Prop) [DecidablePred inside] {tie : Tie} {lo c : ℕ}
    {low high : Prop} [Decidable low] [Decidable high]
    (h : (if inside lo then
        if inside (lo + 1) then
          if low then some lo
          else if high then some (lo + 1)
          else match tie with
            | .up => some (lo + 1)
            | .toEven => some (if lo % 2 = 0 then lo else lo + 1)
        else some lo
      else if inside (lo + 1) then some (lo + 1)
      else none) = some c) : inside c := by
  split at h
  next hlo =>
    split at h
    next hhi =>
      split at h
      next => exact Option.some.inj h ▸ hlo
      split at h
      next => exact Option.some.inj h ▸ hhi
      cases tie with
      | up => exact Option.some.inj h ▸ hhi
      | toEven =>
        have h := Option.some.inj h
        split at h
        · exact h ▸ hlo
        · exact h ▸ hhi
    next => exact Option.some.inj h ▸ hlo
  next =>
    split at h
    next hhi => exact Option.some.inj h ▸ hhi
    next => cases h

/-- A candidate lies in the interval that rounds to the double, its ends included. -/
theorem onGrid?_inside {tie : Tie} {b : Binary} {s : ℤ} {c : ℕ} (h : onGrid? tie b s = some c) :
    (scaled (4 * b.mantissa - if b.narrowBelow then 1 else 2) b.exponent s).num ≤
        c * (4 * (scaled (4 * b.mantissa) b.exponent s).den) ∧
      c * (4 * (scaled (4 * b.mantissa) b.exponent s).den) ≤
        (scaled (4 * b.mantissa + 2) b.exponent s).num := by
  have hinside := inside_of_chosen (fun c =>
    let below := (scaled (4 * b.mantissa - if b.narrowBelow then 1 else 2) b.exponent s).num
    let above := (scaled (4 * b.mantissa + 2) b.exponent s).num
    let den := 4 * (scaled (4 * b.mantissa) b.exponent s).den
    if b.mantissa % 2 = 0 then below ≤ c * den ∧ c * den ≤ above
    else below < c * den ∧ c * den < above) h
  dsimp only at hinside
  split at hinside
  · exact hinside
  · exact ⟨hinside.1.le, hinside.2.le⟩

theorem onGrid?_le {tie : Tie} {b : Binary} {s : ℤ} {c : ℕ} (h : onGrid? tie b s = some c) :
    (c : ℚ) * 10 ^ s ≤ (b.mantissa + 1 / 2) * 2 ^ b.exponent := by
  have hinside : ((c * (4 * (scaled (4 * b.mantissa) b.exponent s).den) : ℕ) : ℚ) ≤
      (scaled (4 * b.mantissa + 2) b.exponent s).num := by
    exact_mod_cast (onGrid?_inside h).2
  simp only [scaled, Nat.pow_eq] at hinside
  push_cast at hinside
  rw [zpow_eq_div (by norm_num) s, zpow_eq_div two_ne_zero b.exponent, mul_div_assoc',
    mul_div_assoc', div_le_div_iff₀ (by positivity) (by positivity)]
  linarith

theorem onGrid?_pos {tie : Tie} {b : Binary} {s : ℤ} {c : ℕ} (hb : 0 < b.mantissa)
    (h : onGrid? tie b s = some c) : 0 < c := by
  refine Nat.pos_of_ne_zero fun hzero => ?_
  have hbelow := (onGrid?_inside h).1
  rw [hzero, zero_mul, scaled, Nat.le_zero, Nat.pow_eq, Nat.pow_eq] at hbelow
  have hnarrow : 0 < 4 * b.mantissa - if b.narrowBelow = true then 1 else 2 := by
    split <;> omega
  exact absurd hbelow (by positivity)

/-- What is printed is on a grid, or nothing is found there. -/
theorem shortest_cases (tie : Tie) (b : Binary) :
    shortest tie b = (0, 0) ∨ onGrid? tie b (shortest tie b).2 = some (shortest tie b).1 := by
  unfold shortest
  dsimp only
  cases hfound : (List.range 17).findSome? fun n : ℕ =>
      (onGrid? tie b (leadingExponent b - n)).map fun c => (c, leadingExponent b - (n : ℤ)) with
  | none => exact Or.inl rfl
  | some found =>
    obtain ⟨n, -, hn⟩ := List.exists_of_findSome?_eq_some hfound
    obtain ⟨c, hc, rfl⟩ := Option.map_eq_some_iff.mp hn
    exact Or.inr hc

/-- The printed digits, scaled, do not pass the middle to the next double. -/
theorem shortest_le (tie : Tie) (b : Binary) :
    ((shortest tie b).1 : ℚ) * 10 ^ (shortest tie b).2 ≤ (b.mantissa + 1 / 2) * 2 ^ b.exponent := by
  rcases shortest_cases tie b with hnone | hfound
  · rw [hnone, Nat.cast_zero, zero_mul]
    positivity
  · exact onGrid?_le hfound

theorem shortest_pos (tie : Tie) {b : Binary} (hb : 0 < b.mantissa) :
    shortest tie b = (0, 0) ∨ 0 < (shortest tie b).1 :=
  (shortest_cases tie b).imp_right (onGrid?_pos hb)

/-- The middle between the two greatest doubles. -/
def highest : ℚ := (2 ^ 53 - 3 / 2) * 2 ^ (971 : ℤ)

/-- The bits of the greatest double. -/
def greatest : ℕ := 0x7fefffffffffffff

theorem ofBits_pos {size : ℕ} (hsize : size < 2 ^ 63) (hne : size ≠ 0) :
    0 < (Binary.ofBits size).mantissa := by
  unfold Binary.ofBits
  simp only [Nat.pow_eq]
  split <;> dsimp only <;> omega

theorem shortest_greatest :
    shortest .toEven (Binary.ofBits greatest) = (17976931348623157, 292) := by
  decide +kernel

/-- The finite doubles but for the greatest end at or below the middle to that one. -/
theorem ofBits_le {size : ℕ} (hsize : size < 2 ^ 63) (hfinite : size / 2 ^ 52 % 2 ^ 11 ≠ 2047)
    (hne : size ≠ greatest) :
    ((Binary.ofBits size).mantissa + 1 / 2 : ℚ) * 2 ^ (Binary.ofBits size).exponent ≤ highest := by
  have hpow : (0 : ℚ) < 2 ^ (971 : ℤ) := by positivity
  obtain ⟨m, e, hm, he, hbits⟩ : ∃ (m : ℕ) (e : ℤ), (Binary.ofBits size).mantissa = m ∧
      (Binary.ofBits size).exponent = e ∧ m < 2 ^ 53 ∧ e ≤ 971 ∧ (e = 971 → m < 2 ^ 53 - 1) := by
    refine ⟨_, _, rfl, rfl, ?_⟩
    unfold Binary.ofBits
    simp only [Nat.pow_eq]
    unfold greatest at hne
    split <;> dsimp only <;> omega
  rw [hm, he]
  obtain ⟨hlt, hle, hless⟩ := hbits
  rcases hle.lt_or_eq with he | rfl
  · have hhalf : (2 : ℚ) ^ e ≤ 2 ^ (971 : ℤ) / 2 := by
      rw [le_div_iff₀ two_pos, ← zpow_add_one₀ two_ne_zero]
      exact zpow_le_zpow_right₀ one_le_two (by omega)
    have hm : (m : ℚ) + 1 / 2 ≤ 2 ^ 53 := by
      have : ((m + 1 : ℕ) : ℚ) ≤ (2 ^ 53 : ℕ) := by exact_mod_cast hlt
      push_cast at this
      linarith
    calc ((m : ℚ) + 1 / 2) * 2 ^ e ≤ 2 ^ 53 * (2 ^ (971 : ℤ) / 2) :=
          mul_le_mul hm hhalf (by positivity) (by positivity)
      _ = 2 ^ 53 / 2 * 2 ^ (971 : ℤ) := by ring
      _ ≤ highest := mul_le_mul_of_nonneg_right (by norm_num) hpow.le
  · have hm : (m : ℚ) + 1 / 2 ≤ 2 ^ 53 - 3 / 2 := by
      have : ((m + 2 : ℕ) : ℚ) ≤ (2 ^ 53 : ℕ) := by exact_mod_cast (by have := hless rfl; omega)
      push_cast at this
      linarith
    exact mul_le_mul_of_nonneg_right hm hpow.le

end Gleaner.Decimal
