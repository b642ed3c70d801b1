import Gleaner.Decimal.Read
import Mathlib.Tactic.NormNum

/-!
Digits: how far they go in a text, and the numbers they write.
-/
namespace Gleaner.Decimal

/-- A text that goes on without a digit. -/
def NoDigit (rest : List Char) : Prop := ∀ c ∈ rest.head?, c.isDigit = false

theorem takeWhile_digits {ds rest : List Char} (hds : ∀ c ∈ ds, c.isDigit = true)
    (hrest : NoDigit rest) : (ds ++ rest).takeWhile Char.isDigit = ds := by
  rw [List.takeWhile_append_of_pos hds]
  cases rest with
  | nil => simp
  | cons c rest => simp [hrest c rfl]

theorem dropWhile_digits {ds rest : List Char} (hds : ∀ c ∈ ds, c.isDigit = true)
    (hrest : NoDigit rest) : (ds ++ rest).dropWhile Char.isDigit = rest := by
  rw [List.dropWhile_append_of_pos hds]
  cases rest with
  | nil => rfl
  | cons c rest => simp [hrest c rfl]

theorem digitsValue_eq (ds : List Char) : digitsValue ds = Nat.ofDigitChars 10 ds 0 := by
  rw [digitsValue, Nat.ofDigitChars_eq_foldl]

theorem le_ofDigitChars (ds : List Char) (n : ℕ) :
    n * 10 ^ ds.length ≤ Nat.ofDigitChars 10 ds n := by
  rw [Nat.ofDigitChars_eq_ofDigitChars_zero, mul_comm]
  exact Nat.le_add_right _ _

theorem ofDigitChars_lt {ds : List Char} (hds : ∀ c ∈ ds, c.isDigit = true) (n : ℕ) :
    Nat.ofDigitChars 10 ds n < (n + 1) * 10 ^ ds.length := by
  induction ds generalizing n with
  | nil => simp
  | cons d ds ih =>
    have hd := (Char.isDigit_iff_toNat.mp (hds d List.mem_cons_self)).2
    have hnine : d.toNat ≤ 57 := hd
    rw [Nat.ofDigitChars_cons, List.length_cons, pow_succ', ← mul_assoc]
    refine (ih (fun c hc => hds c (List.mem_cons_of_mem d hc)) _).trans_le
      (Nat.mul_le_mul_right _ ?_)
    change 10 * n + (d.toNat - 48) + 1 ≤ _
    omega

/-- No zero stands in front of the digits of a positive number. -/
theorem toDigits_head {n : ℕ} (hn : 0 < n) : ∃ d ds, Nat.toDigits 10 n = d :: ds ∧ d ≠ '0' := by
  induction n using Nat.strong_induction_on with
  | _ n ih =>
    rcases lt_or_ge n 10 with hsmall | hlarge
    · refine ⟨n.digitChar, [], Nat.toDigits_of_lt_base hsmall, ?_⟩
      rw [Ne, Nat.digitChar_eq_zero]
      omega
    · obtain ⟨d, ds, hds, hd⟩ := ih (n / 10) (by omega) (by omega)
      exact ⟨d, ds ++ [(n % 10).digitChar], by
        rw [Nat.toDigits_of_base_le (by norm_num) hlarge, hds, List.cons_append], hd⟩

theorem digitsValue_toDigits (n : ℕ) : digitsValue (Nat.toDigits 10 n) = n := by
  rw [digitsValue_eq, Nat.ofDigitChars_ten_toDigits]

theorem digitsValue_lt {ds : List Char} (hds : ∀ c ∈ ds, c.isDigit = true) :
    digitsValue ds < 10 ^ ds.length := by
  have h := ofDigitChars_lt hds 0
  rwa [zero_add, one_mul, ← digitsValue_eq] at h

theorem natural?_toDigits (bound n : ℕ) :
    natural? bound (Nat.toDigits 10 n) = if n < bound then some n else none := by
  have hdigit : ∀ c ∈ Nat.toDigits 10 n, c.isDigit = true :=
    fun c hc => Nat.isDigit_of_mem_toDigits (by omega) (by omega) hc
  unfold natural?
  split
  next ds hplus =>
    -- No sign stands before the digits.
    have hsign := hdigit '+' (by rw [hplus]; exact List.mem_cons_self)
    exact absurd hsign (by decide)
  next =>
    simp [Nat.toDigits_ne_nil, List.all_eq_true.mpr hdigit, digitsValue_toDigits]

theorem lt_of_natural? {bound n : ℕ} {cs : List Char} (h : natural? bound cs = some n) :
    n < bound := by
  unfold natural? at h
  extract_lets ds value at h
  split at h
  next => exact absurd h (by simp)
  next =>
    split at h
    next hlt =>
      rw [← Option.some.inj h]
      exact hlt
    next => exact absurd h (by simp)

end Gleaner.Decimal
