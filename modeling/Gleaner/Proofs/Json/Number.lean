import Gleaner.Json.Printer
import Gleaner.Proofs.Decimal.Digits
import Gleaner.Proofs.Json.Scale

/-!
Printed numbers read back. A finite double prints as a numeral of JSON, and what is read of the
numeral is a double again: its digits, cut off at 64 bits and scaled, do not overflow
(`readsReal_text`).
-/
namespace Gleaner.Json
open Decimal

section Digits

/-- What is read of digits are the first ones of them, a number of 64 bits. -/
theorem takeDigits_spec (n : ℕ) (ds : List Char) : ∃ taken, ds = taken ++ (takeDigits n ds).2 ∧
    (takeDigits n ds).1 = Nat.ofDigitChars 10 taken n ∧
    (n < UInt64.size → (takeDigits n ds).1 < UInt64.size) := by
  induction ds generalizing n with
  | nil => exact ⟨[], rfl, rfl, id⟩
  | cons d ds ih =>
    unfold takeDigits
    dsimp only
    split
    next hnext =>
      obtain ⟨taken, hds, hvalue, hsize⟩ := ih (10 * n + (d.toNat - '0'.toNat))
      refine ⟨d :: taken, by rw [List.cons_append, ← hds], ?_, fun _ => hsize hnext⟩
      rw [hvalue, Nat.ofDigitChars_cons]
    next => exact ⟨[], rfl, rfl, id⟩

theorem takeDigits_of_lt {n : ℕ} {ds : List Char} (h : Nat.ofDigitChars 10 ds n < UInt64.size) :
    takeDigits n ds = (Nat.ofDigitChars 10 ds n, []) := by
  induction ds generalizing n with
  | nil => rfl
  | cons d ds ih =>
    rw [Nat.ofDigitChars_cons] at h
    have hnext : 10 * n + (d.toNat - '0'.toNat) < UInt64.size :=
      (Nat.le_mul_of_pos_right _ (Nat.pow_pos (by norm_num))).trans_lt
        ((le_ofDigitChars ds _).trans_lt h)
    rw [takeDigits, if_pos hnext, ih h, Nat.ofDigitChars_cons]

end Digits

section Text

/-- Its parts are digits and not empty, and no zero stands in front of another digit. -/
structure NumberText.Written (t : NumberText) : Prop where
  whole : t.whole ≠ [] ∧ ∀ c ∈ t.whole, c.isDigit = true
  start : t.whole.head? = some '0' → t.whole.length = 1
  fraction : ∀ ds ∈ t.fraction, ds ≠ [] ∧ ∀ c ∈ ds, c.isDigit = true
  exponent : ∀ x ∈ t.exponent, x.digits ≠ [] ∧ ∀ c ∈ x.digits, c.isDigit = true

/-- A text that goes on after a member's value. -/
def EndsMember (rest : List Char) : Prop := ∃ c cs, rest = c :: cs ∧ (c = ',' ∨ c = '\x7d')

theorem EndsMember.noDigit {rest : List Char} (h : EndsMember rest) : NoDigit rest := by
  obtain ⟨c, cs, rfl, rfl | rfl⟩ := h
  · intro c hc
    cases hc
    rfl
  · intro c hc
    cases hc
    rfl

theorem fractionPart?_chars {fraction : Option (List Char)}
    (h : ∀ ds ∈ fraction, ds ≠ [] ∧ ∀ c ∈ ds, c.isDigit = true) {rest : List Char}
    (hrest : NoDigit rest) (hpoint : rest.head? ≠ some '.') :
    fractionPart? (fraction.elim [] ('.' :: ·) ++ rest) = some (fraction, rest) := by
  cases fraction with
  | none =>
    unfold fractionPart?
    split
    · simp_all
    · rfl
  | some ds =>
    obtain ⟨hne, hds⟩ := h ds rfl
    simp [fractionPart?, takeWhile_digits hds hrest, dropWhile_digits hds hrest, hne]

/-- The exponent of a number, as it is written. -/
def ExponentPart.chars (x : ExponentPart) : List Char :=
  'e' :: (if x.negative then '-' else '+') :: x.digits

theorem exponentPart?_chars {exponent : Option ExponentPart}
    (h : ∀ x ∈ exponent, x.digits ≠ [] ∧ ∀ c ∈ x.digits, c.isDigit = true) {rest : List Char}
    (hrest : EndsMember rest) :
    exponentPart? (exponent.elim [] ExponentPart.chars ++ rest) = some (exponent, rest) := by
  cases exponent with
  | none =>
    obtain ⟨c, cs, rfl, rfl | rfl⟩ := hrest
    · rfl
    · rfl
  | some x =>
    obtain ⟨hne, hds⟩ := h x rfl
    obtain ⟨negative, digits⟩ := x
    have htake := takeWhile_digits hds hrest.noDigit
    have hdrop := dropWhile_digits hds hrest.noDigit
    dsimp only at *
    cases negative <;>
      simp [exponentPart?, ExponentPart.chars, splitSign, htake, hdrop, hne]

/-- A number as it is written. -/
def NumberText.chars (t : NumberText) : List Char :=
  (if t.negative then ['-'] else []) ++ (t.whole ++ (t.fraction.elim [] ('.' :: ·) ++
    t.exponent.elim [] ExponentPart.chars))

theorem minus_chars {negative : Bool} {cs : List Char} (h : cs.head? ≠ some '-') :
    minus ((if negative then ['-'] else []) ++ cs) = (negative, cs) := by
  cases negative with
  | true => rfl
  | false =>
    unfold minus
    split
    · simp_all
    · rfl

/-- A number is taken apart as it is written. -/
theorem number?_chars {t : NumberText} (h : t.Written) {rest : List Char}
    (hrest : EndsMember rest) : number? (t.chars ++ rest) = t.value?.map fun n => (n, rest) := by
  obtain ⟨negative, whole, fraction, exponent⟩ := t
  obtain ⟨⟨hne, hwhole⟩, hstart, hfraction, hexponent⟩ := h
  dsimp only at *
  have hend : NoDigit (exponent.elim [] ExponentPart.chars ++ rest) ∧
      (exponent.elim [] ExponentPart.chars ++ rest).head? ≠ some '.' := by
    cases exponent with
    | none =>
      refine ⟨hrest.noDigit, ?_⟩
      obtain ⟨c, cs, rfl, rfl | rfl⟩ := hrest <;> simp
    | some x => simp [NoDigit, ExponentPart.chars]
  have hdigits : NoDigit (fraction.elim [] ('.' :: ·) ++
      (exponent.elim [] ExponentPart.chars ++ rest)) := by
    cases fraction with
    | none => exact hend.1
    | some ds => simp [NoDigit]
  have hsign : (whole ++ (fraction.elim [] ('.' :: ·) ++
      (exponent.elim [] ExponentPart.chars ++ rest))).head? ≠ some '-' := by
    obtain ⟨c, cs, rfl⟩ := List.exists_cons_of_ne_nil hne
    intro hc
    cases Option.some.inj hc
    exact absurd (hwhole '-' List.mem_cons_self) (by decide)
  have hzero :
      (whole.isEmpty || (whole.head? == some '0' && decide (1 < whole.length))) = false := by
    by_cases h0 : whole.head? = some '0'
    · simp [hne, hstart h0]
    · simp [hne, h0]
  simp only [NumberText.chars, List.append_assoc, number?, minus_chars hsign,
    takeWhile_digits hwhole hdigits, dropWhile_digits hwhole hdigits, hzero, Bool.false_eq_true,
    if_false, fractionPart?_chars hfraction hend.1 hend.2, exponentPart?_chars hexponent hrest,
    Option.bind_eq_bind, Option.bind_some]
  cases NumberText.value? ⟨negative, whole, fraction, exponent⟩ <;> rfl

end Text

section Values

variable {negative : Bool} {d : Char} {whole : List Char} {fraction : Option (List Char)}
  {x : ExponentPart}

/-- Without an exponent the digits are scaled down. -/
theorem value?_point {ds : List Char} (h : Nat.ofDigitChars 10 whole 0 < UInt64.size) :
    ∃ y, NumberText.value? ⟨negative, whole, some ds, none⟩ = some (.real y) := by
  obtain ⟨taken, -, -, hsize⟩ := takeDigits_spec (Nat.ofDigitChars 10 whole 0) ds
  have hscale : ∃ y, scale? (takeDigits (Nat.ofDigitChars 10 whole 0) ds).1
      (0 - ((ds.length - (takeDigits (Nat.ofDigitChars 10 whole 0) ds).2.length : ℕ) : ℤ)) =
        some y := by
    rcases Nat.eq_zero_or_pos
      (ds.length - (takeDigits (Nat.ofDigitChars 10 whole 0) ds).2.length) with hnone | htaken
    · rw [hnone]
      refine scale?_some (hsize h) ?_
      have h64 : ((takeDigits (Nat.ofDigitChars 10 whole 0) ds).1 : ℚ) < 2 ^ 64 := by
        exact_mod_cast hsize h
      have hhighest : (2 : ℚ) ^ 64 ≤ highest := by
        rw [highest_eq]
        calc (2 : ℚ) ^ 64 ≤ 2 ^ 970 := pow_le_pow_right₀ one_le_two (by norm_num)
          _ ≤ 18014398509481981 * 2 ^ 970 :=
            le_mul_of_one_le_left (pow_nonneg zero_le_two 970) (by norm_num)
      simpa using h64.le.trans hhighest
    · exact scale?_neg _ (by omega)
  obtain ⟨y, hy⟩ := hscale
  refine ⟨if negative then -y else y, ?_⟩
  simp only [NumberText.value?, takeDigits_of_lt h, Option.getD_some, List.length_nil,
    Nat.cast_zero, hy, Option.map_some]

/-- With an exponent the digits that are read are scaled by it, less the number of those behind the
point. -/
theorem value?_exponent {n : ℕ} {left : List Char} {e : ℤ} (hd : d.isDigit = true)
    (htake : takeDigits (d.toNat - '0'.toNat) (fraction.getD []) = (n, left))
    (hx : digitsValue x.digits ≤ 2147483647)
    (he : e = (if x.negative then -(digitsValue x.digits : ℤ) else digitsValue x.digits) -
      ((fraction.getD []).length - left.length : ℕ))
    (h : ∃ y, scale? n (clampExponent e) = some y) :
    ∃ y, NumberText.value? ⟨negative, [d], fraction, some x⟩ = some (.real y) := by
  obtain ⟨y, hy⟩ := h
  have hwhole : takeDigits 0 [d] = (d.toNat - '0'.toNat, []) := by
    have hnine : d.toNat ≤ 57 := (Char.isDigit_iff_toNat.mp hd).2
    rw [takeDigits, if_pos (by simp only [UInt64.size]; omega), takeDigits, mul_zero, zero_add]
  have hexponent : (if x.negative = true then
      0 - ((fraction.getD []).length - left.length : ℕ) - (digitsValue x.digits : ℤ) else
      0 - ((fraction.getD []).length - left.length : ℕ) + (digitsValue x.digits : ℤ)) = e := by
    rw [he]
    split <;> omega
  refine ⟨if negative then -y else y, ?_⟩
  simp only [NumberText.value?, hwhole, List.length_nil, Nat.cast_zero, htake, if_neg hx.not_gt,
    hexponent, hy, Option.map_some]

/-- The greatest exponents below zero are not looked at. -/
theorem value?_small (hd : d.isDigit = true) (hnegative : x.negative = true)
    (hx : 0 < digitsValue x.digits) :
    ∃ y, NumberText.value? ⟨negative, [d], fraction, some x⟩ = some (.real y) := by
  rcases le_or_gt (digitsValue x.digits) 2147483647 with hsmall | hlarge
  · refine value?_exponent hd rfl hsmall rfl (scale?_neg _ ?_)
    rw [if_pos hnegative]
    unfold clampExponent
    omega
  · refine ⟨if negative then -0.0 else 0.0, ?_⟩
    simp only [NumberText.value?, if_pos hlarge, hnegative, Bool.or_true, if_true]

/-- What is scaled up is no more than what is written. -/
theorem value?_large (hd : d.isDigit = true) (hpositive : x.negative = false)
    (hx : digitsValue x.digits ≤ 308)
    (h : (Nat.ofDigitChars 10 (d :: fraction.getD []) 0 : ℚ) *
      10 ^ ((digitsValue x.digits : ℤ) - (fraction.getD []).length) ≤ highest) :
    ∃ y, NumberText.value? ⟨negative, [d], fraction, some x⟩ = some (.real y) := by
  have hnine : d.toNat ≤ 57 := (Char.isDigit_iff_toNat.mp hd).2
  obtain ⟨n, left, htake⟩ : ∃ n left,
      takeDigits (d.toNat - '0'.toNat) (fraction.getD []) = (n, left) := ⟨_, _, rfl⟩
  obtain ⟨taken, hds, hvalue, hsize⟩ := takeDigits_spec (d.toNat - '0'.toNat) (fraction.getD [])
  rw [htake] at hds hvalue hsize
  have hlength : (fraction.getD []).length = taken.length + left.length := by
    rw [hds, List.length_append]
  have hread : (fraction.getD []).length - left.length = taken.length := by omega
  refine value?_exponent hd htake (hx.trans (by norm_num)) rfl ?_
  rw [hread, hpositive, if_neg Bool.false_ne_true]
  rcases lt_or_ge (digitsValue x.digits) taken.length with hdown | hup
  · refine scale?_neg _ ?_
    unfold clampExponent
    omega
  have hclamp : clampExponent ((digitsValue x.digits : ℤ) - taken.length) =
      (digitsValue x.digits : ℤ) - taken.length := by
    unfold clampExponent
    omega
  rw [hclamp]
  refine scale?_some (hsize (by simp only [UInt64.size]; omega)) (le_trans ?_ h)
  have hmore : (n * 10 ^ left.length : ℚ) ≤ Nat.ofDigitChars 10 (d :: fraction.getD []) 0 := by
    rw [Nat.ofDigitChars_cons, mul_zero, zero_add, hds, Nat.ofDigitChars_append, ← hvalue]
    exact_mod_cast le_ofDigitChars left n
  calc (n : ℚ) * 10 ^ ((digitsValue x.digits : ℤ) - taken.length)
      = n * 10 ^ left.length * 10 ^ ((digitsValue x.digits : ℤ) - (fraction.getD []).length) := by
        rw [mul_assoc, ← zpow_natCast, ← zpow_add₀ (by norm_num)]
        congr 2
        omega
    _ ≤ _ := mul_le_mul_of_nonneg_right hmore (by positivity)

end Values

section Printed

/-- Trimmed digits are the first ones, before zeros. -/
theorem trimZeros_append (ds : List Char) : (trimZeros ds).1 ++ zeros (trimZeros ds).2 = ds := by
  obtain ⟨tail, htail⟩ : ∃ tail, ds.reverse.takeWhile (· = '0') = tail := ⟨_, rfl⟩
  obtain ⟨front, hfront⟩ : ∃ front, ds = front ++ tail.reverse :=
    ⟨(ds.reverse.dropWhile (· = '0')).reverse, by
      rw [← List.reverse_append, ← htail, List.takeWhile_append_dropWhile, List.reverse_reverse]⟩
  have hzeros : tail.reverse = zeros tail.length := by
    rw [zeros, ← List.length_reverse]
    refine List.eq_replicate_of_mem fun c hc => ?_
    rw [List.mem_reverse, ← htail] at hc
    simpa using List.all_eq_true.mp List.all_takeWhile c hc
  unfold trimZeros
  dsimp only
  rw [htail, ← hzeros, hfront]
  simp

theorem trimZeros_cons {d : Char} (hd : d ≠ '0') (ds : List Char) :
    ∃ first, (trimZeros (d :: ds)).1 = d :: first := by
  have happend := trimZeros_append (d :: ds)
  cases hfirst : (trimZeros (d :: ds)).1 with
  | nil =>
    rw [hfirst, List.nil_append, zeros] at happend
    exact absurd (List.eq_of_mem_replicate (happend ▸ List.mem_cons_self)) hd
  | cons c first =>
    rw [hfirst] at happend
    exact ⟨first, by rw [(List.cons.inj happend).1]⟩

/-- A text that is read as a double, whatever member follows. -/
def ReadsReal (cs : List Char) : Prop :=
  ∃ y, ∀ rest, EndsMember rest → number? (cs ++ rest) = some (.real y, rest)

theorem NumberText.Written.readsReal {t : NumberText} (h : t.Written)
    (hvalue : ∃ y, t.value? = some (.real y)) : ReadsReal t.chars := by
  obtain ⟨y, hy⟩ := hvalue
  exact ⟨y, fun rest hrest => by rw [number?_chars h hrest, hy, Option.map_some]⟩

theorem isDigit_of_mem_zeros {n : ℕ} {c : Char} (h : c ∈ zeros n) : c.isDigit = true := by
  rw [List.eq_of_mem_replicate h]
  rfl

variable {negative : Bool} {d : Char} {ds : List Char} {k : ℤ}

theorem readsReal_point {w fraction : List Char} (hwhole : w ≠ [] ∧ ∀ c ∈ w, c.isDigit = true)
    (hstart : w.head? = some '0' → w.length = 1) (hshort : w.length ≤ 16)
    (hfraction : fraction ≠ [] ∧ ∀ c ∈ fraction, c.isDigit = true) :
    ReadsReal ((if negative then ['-'] else []) ++ (w ++ '.' :: fraction)) := by
  have hwritten : NumberText.Written ⟨negative, w, some fraction, none⟩ :=
    { whole := hwhole
      start := hstart
      fraction := fun ds h => Option.some.inj h ▸ hfraction
      exponent := fun x h => nomatch h }
  have h := hwritten.readsReal (value?_point ?_)
  · simpa only [NumberText.chars, Option.elim_some, Option.elim_none, List.append_nil] using h
  · calc Nat.ofDigitChars 10 w 0 < (0 + 1) * 10 ^ w.length := ofDigitChars_lt hwhole.2 0
      _ ≤ 10 ^ 16 := by
        rw [zero_add, one_mul]
        exact Nat.pow_le_pow_right (by norm_num) hshort
      _ < UInt64.size := by norm_num [UInt64.size]

theorem readsReal_below_one {fraction : List Char}
    (hfraction : fraction ≠ [] ∧ ∀ c ∈ fraction, c.isDigit = true) :
    ReadsReal ((if negative then ['-'] else []) ++ '0' :: '.' :: fraction) :=
  readsReal_point (w := ['0']) ⟨by simp, by simp⟩ (fun _ => rfl) (by simp) hfraction

/-- Positional texts have at most 16 digits before the point. -/
theorem readsReal_positional (hd : d ≠ '0') (hds : ∀ c ∈ d :: ds, c.isDigit = true) (hk : k < 16) :
    ReadsReal ((if negative then ['-'] else []) ++ positionalText true (d :: ds) k) := by
  unfold positionalText
  rcases lt_or_ge k 0 with hsmall | hlarge
  · rw [if_pos hsmall]
    refine readsReal_below_one
      ⟨List.append_ne_nil_of_right_ne_nil _ (List.cons_ne_nil d ds), fun c hc => ?_⟩
    rcases List.mem_append.mp hc with hc | hc
    · exact isDigit_of_mem_zeros hc
    · exact hds c hc
  rw [if_neg hlarge.not_gt]
  dsimp only
  rcases lt_or_ge (k.toNat + 1) (d :: ds).length with hlong | hshort
  · rw [if_pos hlong]
    refine readsReal_point ⟨by simp, fun c hc => hds c (List.mem_of_mem_take hc)⟩ (by simp [hd]) ?_
      ⟨?_, fun c hc => hds c (List.mem_of_mem_drop hc)⟩
    · rw [List.length_take]
      omega
    · rw [Ne, List.drop_eq_nil_iff]
      omega
  · rw [if_neg hshort.not_gt, if_pos rfl]
    refine readsReal_point ⟨List.append_ne_nil_of_left_ne_nil (List.cons_ne_nil d ds) _,
      fun c hc => ?_⟩ (by simp [hd]) ?_ ⟨List.cons_ne_nil '0' [], by simp⟩
    · rcases List.mem_append.mp hc with hc | hc
      · exact hds c hc
      · exact isDigit_of_mem_zeros hc
    · rw [List.length_append, zeros, List.length_replicate]
      omega

theorem readsReal_exponent (hds : ∀ c ∈ d :: ds, c.isDigit = true)
    (hvalue : ∃ y, NumberText.value? ⟨negative, [d], if ds = [] then none else some ds,
      some ⟨decide (k < 0), Nat.toDigits 10 k.natAbs⟩⟩ = some (.real y)) :
    ReadsReal ((if negative then ['-'] else []) ++ exponentText (d :: ds) k) := by
  have hwritten : NumberText.Written ⟨negative, [d], if ds = [] then none else some ds,
      some ⟨decide (k < 0), Nat.toDigits 10 k.natAbs⟩⟩ :=
    { whole := ⟨by simp, fun c hc => hds c (by simp_all)⟩
      start := fun _ => rfl
      fraction := by
        intro fraction h
        rw [Option.mem_def, Option.ite_none_left_eq_some] at h
        obtain ⟨hne, h⟩ := h
        cases h
        exact ⟨hne, fun c hc => hds c (List.mem_cons_of_mem d hc)⟩
      exponent := by
        intro x h
        cases h
        exact ⟨Nat.toDigits_ne_nil, fun c =>
          Nat.isDigit_of_mem_toDigits (by norm_num) (by norm_num)⟩ }
  have h := hwritten.readsReal hvalue
  have htext : exponentText (d :: ds) k = [d] ++ ((if ds = [] then none else some ds).elim []
      ('.' :: ·) ++ ExponentPart.chars ⟨decide (k < 0), Nat.toDigits 10 k.natAbs⟩) := by
    unfold exponentText ExponentPart.chars
    cases ds <;> simp
  rw [htext]
  exact h

/-- The leading digit of a number up to `highest` stands at `10 ^ 308` at most. -/
theorem le_of_pow_le_highest {k : ℤ} (h : (10 : ℚ) ^ k ≤ highest) : k ≤ 308 := by
  by_contra hk
  have hpow : (10 : ℚ) ^ (309 : ℤ) ≤ 10 ^ k := zpow_le_zpow_right₀ (by norm_num) (by omega)
  exact absurd (hpow.trans h) (not_le.mpr (by exact_mod_cast highest_lt))

/-- The digits of `n` with the first one apart, and how many zeros at the end are left out. -/
structure Trimmed (n : ℕ) (d : Char) (ds : List Char) (t : ℕ) : Prop where
  digits : ∀ c ∈ d :: ds, c.isDigit = true
  leads : d ≠ '0'
  value : Nat.ofDigitChars 10 (d :: ds) 0 * 10 ^ t = n
  size : 10 ^ (ds.length + t) ≤ n

theorem exists_trimmed {n : ℕ} (hn : 0 < n) : ∃ d ds t,
    (trimZeros (Nat.toDigits 10 n)).1 = d :: ds ∧
      (Nat.toDigits 10 n).length = ds.length + t + 1 ∧ Trimmed n d ds t := by
  have happend := trimZeros_append (Nat.toDigits 10 n)
  obtain ⟨d, tail, hall, hd⟩ := toDigits_head hn
  obtain ⟨ds, hds⟩ := trimZeros_cons hd tail
  rw [← hall] at hds
  rw [hds] at happend
  obtain ⟨t, ht⟩ : ∃ t, (trimZeros (Nat.toDigits 10 n)).2 = t := ⟨_, rfl⟩
  rw [ht] at happend
  have hlength : (Nat.toDigits 10 n).length = ds.length + t + 1 := by
    rw [← happend, List.length_append, List.length_cons, zeros, List.length_replicate]
    omega
  refine ⟨d, ds, t, hds, hlength, ?digits, hd, ?value, ?size⟩
  case digits =>
    exact fun c hc => Nat.isDigit_of_mem_toDigits (by norm_num) (by norm_num)
      (happend ▸ List.mem_append_left (zeros t) hc)
  case value =>
    have := congrArg (Nat.ofDigitChars 10 · 0) happend
    simp only [Nat.ofDigitChars_ten_toDigits] at this
    rw [Nat.ofDigitChars_append, zeros, Nat.ofDigitChars_replicate_zero, mul_comm] at this
    exact this
  case size =>
    rcases Nat.eq_zero_or_pos (ds.length + t) with hzero | hpos
    · rw [hzero]
      exact hn
    · by_contra hlt
      have := (Nat.length_toDigits_le_iff (by norm_num) hpos).mpr (not_le.mp hlt)
      omega

/-- With its exponent behind it, a decimal up to `highest` is read. -/
theorem Trimmed.readsReal {n t : ℕ} {e : ℤ} (htrimmed : Trimmed n d ds t)
    (h : (n : ℚ) * 10 ^ e ≤ highest) (hk : k = e + (ds.length + t : ℕ)) (hnonzero : k ≠ 0) :
    ReadsReal ((if negative then ['-'] else []) ++ exponentText (d :: ds) k) := by
  refine readsReal_exponent htrimmed.digits ?_
  have hd := htrimmed.digits d List.mem_cons_self
  rcases hnonzero.lt_or_gt with hsmall | hlarge
  · refine value?_small hd (decide_eq_true hsmall) ?_
    rw [digitsValue_toDigits]
    omega
  have hfraction : (if ds = [] then none else some ds).getD [] = ds := by
    split
    next hnil => rw [hnil, Option.getD_none]
    next => rfl
  have hleading : (10 : ℚ) ^ k ≤ n * 10 ^ e := by
    calc (10 : ℚ) ^ k = 10 ^ (ds.length + t) * 10 ^ e := by
          rw [← zpow_natCast, ← zpow_add₀ (by norm_num), hk, add_comm]
      _ ≤ n * 10 ^ e :=
          mul_le_mul_of_nonneg_right (by exact_mod_cast htrimmed.size) (by positivity)
  have hbound := le_of_pow_le_highest (hleading.trans h)
  have habs : digitsValue (Nat.toDigits 10 k.natAbs) = k.natAbs := digitsValue_toDigits _
  refine value?_large hd (decide_eq_false hlarge.not_gt) ?_ ?_
  · rw [habs]
    omega
  · rw [hfraction, habs]
    refine le_trans (le_of_eq ?_) h
    rw [← htrimmed.value, Nat.cast_mul, Nat.cast_pow, Nat.cast_ofNat, mul_assoc, ← zpow_natCast,
      ← zpow_add₀ (by norm_num)]
    congr 2
    omega

/-- A decimal up to `highest` is read in the form it is printed in. -/
theorem readsReal_decimal {n : ℕ} {e : ℤ} (hn : 0 < n) (h : (n : ℚ) * 10 ^ e ≤ highest) :
    ReadsReal ((if negative then ['-'] else []) ++
      if Layout.json.positional (e + (Nat.toDigits 10 n).length - 1) then
        positionalText true (trimZeros (Nat.toDigits 10 n)).1 (e + (Nat.toDigits 10 n).length - 1)
      else
        exponentText (trimZeros (Nat.toDigits 10 n)).1 (e + (Nat.toDigits 10 n).length - 1)) := by
  obtain ⟨d, ds, t, hds, hlength, htrimmed⟩ := exists_trimmed hn
  obtain ⟨k, hk⟩ : ∃ k, e + (Nat.toDigits 10 n).length - 1 = k := ⟨_, rfl⟩
  rw [hds, hk]
  by_cases hposition : Layout.json.positional k = true
  · rw [if_pos hposition]
    refine readsReal_positional htrimmed.leads htrimmed.digits ?_
    simp only [Layout.json, Bool.and_eq_true, decide_eq_true_eq] at hposition
    exact hposition.2
  · rw [if_neg hposition]
    refine htrimmed.readsReal h (by omega) ?_
    rintro rfl
    exact hposition rfl

/-- The digits of the greatest double are a little above `highest`, and are scaled back to it. -/
theorem readsReal_greatest : ReadsReal ((if negative then ['-'] else []) ++
    exponentText ('1' :: "7976931348623157".toList) 308) := by
  have hdigits : ('1' :: "7976931348623157".toList).all Char.isDigit = true := rfl
  have htake : takeDigits ('1'.toNat - '0'.toNat) "7976931348623157".toList =
      (17976931348623157, []) := rfl
  have hexponent : digitsValue (Nat.toDigits 10 (308 : ℤ).natAbs) = 308 := digitsValue_toDigits 308
  refine readsReal_exponent (List.all_eq_true.mp hdigits) ?_
  refine value?_exponent (e := 292) rfl htake (hexponent.trans_le (by norm_num)) ?_ scale?_greatest
  rw [hexponent]
  rfl

/-- A finite double prints as a numeral that is read as a double. -/
theorem readsReal_finiteText {bits : ℕ} (hfinite : bits / 2 ^ 52 % 2 ^ 11 ≠ 2047) :
    ReadsReal (finiteText .json bits) := by
  obtain ⟨size, hsize⟩ : ∃ size, bits % Nat.pow 2 63 = size := ⟨_, rfl⟩
  have hlt : size < 2 ^ 63 := hsize ▸ Nat.mod_lt _ (by norm_num)
  have hsizefinite : size / 2 ^ 52 % 2 ^ 11 ≠ 2047 := by
    rw [← hsize, Nat.pow_eq]
    omega
  have hsign : (if Nat.pow 2 63 ≤ bits then ['-'] else []) =
      if decide (Nat.pow 2 63 ≤ bits) then ['-'] else [] := by simp
  unfold finiteText
  dsimp only
  rw [hsize, hsign]
  by_cases hzero : size = 0
  · rw [if_pos hzero]
    exact readsReal_below_one ⟨List.cons_ne_nil '0' [], by simp⟩
  rw [if_neg hzero]
  by_cases hgreatest : size = greatest
  · have hshortest := shortest_greatest
    rw [← hgreatest] at hshortest
    have htie : Layout.json.tie = .toEven := rfl
    rw [htie, hshortest]
    exact readsReal_greatest
  rcases shortest_pos Layout.json.tie (ofBits_pos hlt hzero) with hnone | hpos
  · rw [hnone]
    exact readsReal_below_one ⟨List.cons_ne_nil '0' [], by simp⟩
  · exact readsReal_decimal hpos
      ((shortest_le _ _).trans (ofBits_le hlt hsizefinite hgreatest))

/-- A finite number is printed as a number. -/
theorem readsReal_text {x : Float} (h : x.isFinite = true) : ReadsReal (Number.text (.real x)) := by
  have hnumber : (x.isNaN || x.isInf) = false := by
    rw [isFinite_eq, Bool.not_eq_true'] at h
    exact h
  rw [Number.text, hnumber, if_neg Bool.false_ne_true]
  exact readsReal_finiteText (isFinite_iff_bits.mp h)

end Printed

end Gleaner.Json
