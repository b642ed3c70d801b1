import Gleaner.Proofs.Calendar.Range
import Gleaner.Proofs.Decimal.Finite
import Gleaner.Proofs.Units.Duration
import Gleaner.Units.Moment
import Gleaner.Units.Size

/-!
Which of the unit readers give finite numbers. Times and ages always do, since the calendar bounds
them; sizes and numbers do unless their numerals overflow (`Size.isFinite_parseChars`,
`Number.isFinite_getD`).
-/
namespace Gleaner

open Calendar Decimal

/-! ### Times -/

namespace Moment

theorem isInt64_of_epoch? {cs : List Char} {ms : ℤ} (h : epoch? cs = some ms) :
    IsInt64 ms := by
  unfold epoch? at h
  split at h
  · cases h
  next hdigits =>
    have hlt : digitsValue cs < 10 ^ cs.length := digitsValue_lt (by simpa using hdigits)
    split at h
    next hten =>
      cases h
      rw [hten] at hlt
      unfold IsInt64
      omega
    split at h
    next hthirteen =>
      cases h
      rw [hthirteen] at hlt
      unfold IsInt64
      omega
    next => cases h

theorem within_of_naive? {text : String} {t : LocalTime} (h : naive? text = some t) :
    t.Within := by
  rcases Option.or_eq_some_iff.mp h with h | ⟨-, h⟩
  · obtain ⟨f, -, hf⟩ := List.exists_of_findSome?_eq_some h
    obtain ⟨p, hp, ht⟩ := Option.bind_eq_some_iff.mp hf
    exact (Format.parse?_within hp).localTime? ht
  · obtain ⟨f, -, hf⟩ := List.exists_of_findSome?_eq_some h
    obtain ⟨p, -, ht⟩ := Option.bind_eq_some_iff.mp hf
    exact Parts.within_of_midnight? ht

theorem isInt64_of_parse? {now : Instant} (hnow : now.nanos < 2000000000) {text : String} {ms : ℤ}
    (h : parse? now text = some ms) : IsInt64 ms := by
  unfold parse? at h
  dsimp only at h
  split at h
  · cases h
  rcases Option.or_eq_some_iff.mp h with h | ⟨-, h⟩
  · exact isInt64_of_epoch? h
  rcases Option.or_eq_some_iff.mp h with h | ⟨-, h⟩
  · exact isInt64_of_timestamp? ms h
  rcases Option.or_eq_some_iff.mp h with h | ⟨-, h⟩
  · exact isInt64_of_mailDate? ms h
  split at h
  next hnaive =>
    cases h
    exact (within_of_naive? hnaive).millis
  next => exact isInt64_of_loose? hnow h

/-- Every instant that is read is a signed number of 64 bits. -/
theorem isInt64_of_parseAt? {now : Instant} (hnow : now.nanos < 2000000000) {text : String}
    {offset : Option String} {ms : ℤ} (h : parseAt? now text offset = some ms) : IsInt64 ms := by
  unfold parseAt? at h
  split at h
  · exact isInt64_of_parse? hnow h
  dsimp only at h
  split at h
  · cases h
  rcases Option.or_eq_some_iff.mp h with h | ⟨-, h⟩
  · exact isInt64_of_epoch? h
  split at h
  next hnaive => exact LocalTime.isInt64_of_millis? (within_of_naive? hnaive).nanos h
  next =>
    rcases Option.or_eq_some_iff.mp h with h | ⟨-, h⟩
    · exact isInt64_of_timestamp? ms h
    rcases Option.or_eq_some_iff.mp h with h | ⟨-, h⟩
    · exact isInt64_of_mailDate? ms h
    · exact isInt64_of_loose? hnow h

end Moment

theorem isInt64_of_back? {s : CalendarUnit.Stretch} {now i : Instant} (h : s.back? now = some i) :
    IsInt64 i.second := by
  cases s with
  | months n =>
    unfold CalendarUnit.Stretch.back? at h
    dsimp only at h
    split at h
    · obtain ⟨moved, hmoved, rfl⟩ := Option.map_eq_some_iff.mp h
      exact isInt64_of_addMonths? hmoved
    · cases h
  | seconds n =>
    change now.secondsBack? n = some i at h
    unfold Instant.secondsBack? at h
    split at h <;>
    · obtain ⟨moved, hmoved, rfl⟩ := Option.map_eq_some_iff.mp h
      exact isInt64_of_addSeconds? hmoved

theorem isInt64_step? {qs : List Duration.Quantity} {i j : Instant} {u : CalendarUnit}
    (hi : IsInt64 i.second) (h : Duration.step? qs i u = some j) : IsInt64 j.second := by
  unfold Duration.step? at h
  split at h
  · obtain ⟨s, -, rfl⟩ := Option.map_eq_some_iff.mp h
    cases hback : s.back? i with
    | none => exact hi
    | some j => exact isInt64_of_back? hback
  · cases h
    exact hi

/-- However far an age goes back, the calendar bounds it. -/
theorem isInt64_before (text : String) {now : ℤ} (h : IsInt64 now) :
    IsInt64 (Duration.before text now) := by
  unfold Duration.before
  cases hrewind : Duration.rewind? text ⟨now, 0⟩ with
  | none => exact h
  | some i =>
    exact Duration.along?_induct (P := fun i => IsInt64 i.second)
      (fun _ _ _ hi hstep => isInt64_step? hi hstep) h hrewind

/-! ### Numbers and sizes -/

namespace Number

/-- What is cleared behind the point is not the exponent. -/
theorem cleared_div {k : ℕ} (hk : k ≤ 52) (bits : ℕ) :
    bits / 2 ^ k * 2 ^ k / 2 ^ 52 = bits / 2 ^ 52 := by
  have hsplit : 2 ^ 52 = 2 ^ k * 2 ^ (52 - k) := by
    rw [← pow_add]
    congr 1
    omega
  rw [hsplit, ← Nat.div_div_eq_div_mul, ← Nat.div_div_eq_div_mul,
    Nat.mul_div_cancel _ (Nat.two_pow_pos k)]

theorem isFinite_truncate (x : Float) : (truncate x).isFinite = x.isFinite := by
  obtain ⟨bits, hbits⟩ : ∃ bits, x.toBits.toNat = bits := ⟨_, rfl⟩
  have hlt : bits < 2 ^ 64 := hbits ▸ x.toBits.toNat_lt
  obtain ⟨biased, hbiased⟩ : ∃ biased, bits / 2 ^ 52 % 2 ^ 11 = biased := ⟨_, rfl⟩
  have hx : biased < 1075 → x.isFinite = true := fun h => by
    rw [isFinite_iff_bits, hbits, hbiased]
    omega
  unfold truncate
  simp only [Nat.pow_eq, hbits, hbiased]
  split
  next hsmall =>
    rw [hx (by omega)]
    exact isFinite_ofBits (by omega) (by omega)
  split
  next hmiddle =>
    rw [hx hmiddle]
    refine isFinite_ofBits ((Nat.div_mul_le_self _ _).trans_lt hlt) ?_
    rw [cleared_div (by omega), hbiased]
    omega
  next => rfl

/-- The numeral that is the whole text, commas passed over. -/
def numeral? (cs : List Char) : Option Numeral :=
  Numeral.read? (Scan.withoutCommas (Text.trim cs))

theorem isFinite_getD (n : Option Numeral) :
    ((n.map Numeral.toFloat).getD 0.0).isFinite = false ↔ ∃ m, n = some m ∧ m.Overflows 0 := by
  cases n with
  | none => exact iff_of_false (by simp [isFinite_zero]) (by simp)
  | some m => simp [m.isFinite_toFloat]

end Number

namespace Size

theorem isWhole_scale : ∀ k : Fin 8, isWhole (scale k) (1024 ^ k.val) = true := by decide +kernel

theorem exactly_scale {k : ℕ} (hk : k < 8) : Exactly (scale k) (1024 ^ k) := by
  exact_mod_cast exactly_of_isWhole (isWhole_scale ⟨k, hk⟩)

/-- Scaled by a power of 1024, the rounded value overflows just when the value itself does: the
powers shift the exponent alone, so that the last double is met as it is without them. -/
theorem scaled_lt_overflow_iff {v : ℚ} {r : ℕ} {g : ℤ} (h : Rounds v r g) {k : ℕ} (hk : k < 8) :
    (r : ℚ) * 2 ^ g * 1024 ^ k < overflow ↔ v * 1024 ^ k < overflow := by
  have hpow : (0 : ℚ) < 2 ^ (971 : ℤ) := by positivity
  have hpowk : (0 : ℚ) < 1024 ^ k := by positivity
  have hshift : (2 : ℚ) ^ (971 : ℤ) = 2 ^ (971 - 10 * k : ℤ) * 1024 ^ k := by
    have h := two_zpow_add (971 - 10 * k) (10 * k)
    rw [show (971 - 10 * k + (10 * k : ℕ) : ℤ) = 971 by push_cast; ring, pow_mul,
      show (2 : ℚ) ^ 10 = 1024 by norm_num, mul_comm] at h
    exact h
  constructor
  · intro hlt
    by_contra hge
    rw [not_lt, overflow, hshift, ← mul_assoc, mul_le_mul_iff_left₀ hpowk] at hge
    have hle := h.le_value (by omega) hge
    have : overflow ≤ (r : ℚ) * 2 ^ g * 1024 ^ k := by
      calc overflow ≤ 2 ^ 53 * 2 ^ (971 : ℤ) :=
            mul_le_mul_of_nonneg_right (by norm_num) hpow.le
        _ = 2 ^ 53 * 2 ^ (971 - 10 * k : ℤ) * 1024 ^ k := by rw [hshift, mul_assoc]
        _ ≤ _ := mul_le_mul_of_nonneg_right hle hpowk.le
    exact absurd hlt (not_lt.mpr this)
  · intro hlt
    rw [overflow, hshift, ← mul_assoc, mul_lt_mul_iff_left₀ hpowk] at hlt
    have hle := h.value_le (m := 2 ^ 53 - 1) (f := 971 - 10 * k) (by norm_num) (by norm_num)
      (by omega) (hlt.trans_le (by norm_num))
    calc (r : ℚ) * 2 ^ g * 1024 ^ k
        ≤ ((2 ^ 53 - 1 : ℕ) : ℚ) * 2 ^ (971 - 10 * k : ℤ) * 1024 ^ k :=
          mul_le_mul_of_nonneg_right hle hpowk.le
      _ = ((2 ^ 53 - 1 : ℕ) : ℚ) * 2 ^ (971 : ℤ) := by rw [hshift, mul_assoc]
      _ < overflow := mul_lt_mul_of_pos_right (by norm_num) hpow

/-- A size overflows just when its number of bytes does, before or after it is scaled. -/
theorem isFinite_mul_scale {x : Float} {v : ℚ} (hx : Nearest x v) {k : ℕ} (hk : k < 8) :
    (x * scale k).isFinite = true ↔ v * 1024 ^ k < overflow := by
  have hscale := exactly_scale hk
  cases hx with
  | infinite hv hx =>
    have hinfinite : x.isFinite = false := by
      change x.toModel.unpack.isFinite = false
      rw [hx]
      rfl
    rw [isFinite_mul_of_not_finite hinfinite hscale]
    refine iff_of_false Bool.false_ne_true (not_lt.mpr (hv.trans ?_))
    exact le_mul_of_one_le_right (overflow_pos.le.trans hv) (one_le_pow₀ (by norm_num))
  | finite hv h hx =>
    -- The product is that of the rounded value, which lies on the same side of the overflow.
    rw [isFinite_normalized_mul hx hscale]
    exact scaled_lt_overflow_iff h hk

theorem power_lt (letter : Char) : power letter < 8 := by
  unfold power
  cases h : letters.findIdx? (· = letter.toUpper) with
  | none => norm_num
  | some i =>
    have hlt : i < letters.length := (List.findIdx?_eq_some_iff_findIdx_eq.mp h).1
    have hlength : letters.length = 7 := rfl
    rw [Option.elim_some]
    omega

theorem start_of_fraction {cs : List Char} (h : (Scan.fraction cs).1 ≠ []) :
    ∃ ds, (Scan.fraction cs).1 = '.' :: ds := by
  unfold Scan.fraction at h ⊢
  split at h
  · dsimp only at h ⊢
    split at h
    · exact absurd rfl h
    next hds =>
      rw [if_neg hds]
      exact ⟨_, rfl⟩
  · exact absurd rfl h

theorem start_of_magnitude? {cs digits rest : List Char}
    (h : magnitude? cs = some (digits, rest)) :
    ∃ c ds, digits = c :: ds ∧ (Text.isDecimalDigit c = true ∨ c = '.') := by
  unfold magnitude? Scan.spanning at h
  dsimp only at h
  split at h
  · cases h
  next hparts =>
    cases h
    cases hwhole : cs.takeWhile Text.isDecimalDigit with
    | cons c ds =>
      have hc : c ∈ cs.takeWhile Text.isDecimalDigit := hwhole ▸ List.mem_cons_self
      exact ⟨c, ds ++ _, rfl, Or.inl (List.all_eq_true.mp List.all_takeWhile c hc)⟩
    | nil =>
      rw [hwhole] at hparts
      have hpart : (Scan.fraction (cs.dropWhile Text.isDecimalDigit)).1 ≠ [] := by
        simpa using hparts
      obtain ⟨ds, hds⟩ := start_of_fraction hpart
      exact ⟨'.', ds, by rw [hds, List.nil_append], Or.inr rfl⟩

/-- The digits of a size have no sign in front. -/
theorem splitSign_of_magnitude? {cs digits rest : List Char}
    (h : magnitude? cs = some (digits, rest)) : splitSign digits = (false, digits) := by
  obtain ⟨c, ds, rfl, hc⟩ := start_of_magnitude? h
  obtain ⟨hdash, hcross⟩ : Text.isDecimalDigit '-' = false ∧ Text.isDecimalDigit '+' = false := by
    decide +kernel
  have hminus : c ≠ '-' := by
    rintro rfl
    simp [hdash] at hc
  have hplus : c ≠ '+' := by
    rintro rfl
    simp [hcross] at hc
  unfold splitSign
  split <;> simp_all

/-- The numeral of a size that is the whole text, and the power of 1024 that its unit stands for. -/
def numeral? (cs : List Char) : Option (Numeral × ℕ) :=
  (parts? (Scan.withoutCommas (Text.trim cs))).bind fun p =>
    (Numeral.read? p.1).map fun n => (n, p.2.elim 0 power)

theorem parseChars_eq (cs : List Char) :
    parseChars cs = ((numeral? cs).map fun n => n.1.toFloat * scale n.2).getD 0.0 := by
  unfold parseChars numeral? Decimal.float?
  cases parts? (Scan.withoutCommas (Text.trim cs)) with
  | none => rfl
  | some p =>
    obtain ⟨digits, unit⟩ := p
    cases h : Numeral.read? digits with
    | none => simp [h]
    | some n => simp [h]

/-- A size is no finite number just when its numeral, scaled by its unit, is none. -/
theorem isFinite_of_numeral? {cs : List Char} {n : Numeral} {k : ℕ}
    (h : numeral? cs = some (n, k)) : (n.toFloat * scale k).isFinite = false ↔ n.Overflows k := by
  obtain ⟨⟨digits, unit⟩, hparts, h⟩ := Option.bind_eq_some_iff.mp h
  obtain ⟨n', hread, hn⟩ := Option.map_eq_some_iff.mp h
  cases hn
  have hk : unit.elim 0 power < 8 := by
    cases unit with
    | none => norm_num
    | some letter => exact power_lt letter
  cases n with
  | infinite negative =>
    have hinfinite := (Numeral.isFinite_toFloat (.infinite negative)).mpr trivial
    exact iff_of_true (isFinite_mul_of_not_finite hinfinite (exactly_scale hk)) trivial
  | nan =>
    have hnan := (Numeral.isFinite_toFloat .nan).mpr trivial
    exact iff_of_true (isFinite_mul_of_not_finite hnan (exactly_scale hk)) trivial
  | finite d =>
    have hsign : d.negative = false := by
      obtain ⟨⟨digits', rest⟩, hmagnitude, hunit⟩ := Option.bind_eq_some_iff.mp hparts
      obtain ⟨unit', -, heq⟩ := Option.bind_eq_some_iff.mp hunit
      cases heq
      rw [negative_of_read? hread, splitSign_of_magnitude? hmagnitude]
    obtain ⟨x, hx, hd⟩ := d.exists_nearest
    rw [hsign, if_neg Bool.false_ne_true] at hd
    rw [Numeral.toFloat, hd, ← Bool.not_eq_true, isFinite_mul_scale hx hk, not_lt]
    rfl

theorem isFinite_parseChars (cs : List Char) :
    (parseChars cs).isFinite = false ↔ ∃ n, numeral? cs = some n ∧ n.1.Overflows n.2 := by
  rw [parseChars_eq]
  cases h : numeral? cs with
  | none => exact iff_of_false (by simp [isFinite_zero]) (by simp)
  | some n => simp [isFinite_of_numeral? h]

end Size

end Gleaner
