import Gleaner.Proofs.Decimal.Zero
import Gleaner.Proofs.Units.Size

/-!
Sizes in running text: a number with commas, blanks, and a unit that ends in `B`. The first one that
stands behind a text without digits is found, and it says what it says alone (`find_token`).
-/
namespace Gleaner.Size

open Decimal

/-- A scaled number that is not zero is zero only if it was: scaling makes nothing smaller. -/
theorem le_of_isZero_mul_scale {x : Float} {v : ℚ} (hx : Nearest x v) {k : ℕ} (hk : k < 8)
    (hzero : (x * scale k == 0.0) = true) : v ≤ 2 ^ (-1075 : ℤ) := by
  have hscale := exactly_scale hk
  have hfinite := isFinite_of_isZero hzero
  cases id hx with
  | infinite hv hunpack =>
    have hinfinite : x.isFinite = false := by
      change x.toModel.unpack.isFinite = false
      rw [hunpack]
      rfl
    rw [isFinite_mul_of_not_finite hinfinite hscale] at hfinite
    cases hfinite
  | @finite r g hv h hunpack =>
    by_cases hr : r = 0
    · refine hx.le_of_isZero (isZero_iff.mpr ⟨.positive, ?_⟩)
      rw [hunpack, hr]
      rfl
    · obtain ⟨m, e, hpos, heq, -⟩ := normalized_eq_finite (g := g) hr
      obtain ⟨n, f, hn, hunpack', hbits, hpow⟩ := hscale
      have hmul := nearest_mul (hunpack.trans heq) hunpack'
        (hbits.trans (Nat.le_mul_of_pos_left n hpos))
      rw [← hpow] at hmul
      have hsmall := hmul.le_of_isZero hzero
      have hleast : (2 : ℚ) ^ (-1074 : ℤ) ≤ m * 2 ^ e * 1024 ^ k := by
        calc (2 : ℚ) ^ (-1074 : ℤ) ≤ 2 ^ e :=
              zpow_le_zpow_right₀ one_le_two (h.least.trans (exponent_of_normalized heq))
          _ ≤ m * 2 ^ e := le_mul_of_one_le_left (by positivity) (by exact_mod_cast hpos)
          _ ≤ m * 2 ^ e * 1024 ^ k :=
              le_mul_of_one_le_right (by positivity) (one_le_pow₀ (by norm_num))
      have hlt : (2 : ℚ) ^ (-1075 : ℤ) < 2 ^ (-1074 : ℤ) :=
        zpow_lt_zpow_right₀ one_lt_two (by norm_num)
      exact absurd (hleast.trans hsmall) (not_le.mpr hlt)

/-! ### Units in running text -/

/-- A unit that ends in `B`, and the place and the character of its letter if it has one. -/
inductive IsByteUnit : List Char → Option (ℕ × Char) → Prop
  | plain {b : Char} (hb : b ∈ forms 'B') : IsByteUnit [b] none
  | lettered {k : ℕ} {u c b : Char} (hu : letters[k]? = some u) (hc : c ∈ forms u)
      (hb : b ∈ forms 'B') : IsByteUnit [c, b] (some (k, c))
  | binary {k : ℕ} {u c i b : Char} (hu : letters[k]? = some u) (hc : c ∈ forms u)
      (hi : i ∈ forms 'I') (hb : b ∈ forms 'B') : IsByteUnit [c, i, b] (some (k, c))

theorem IsByteUnit.isUnit {cs : List Char} {letter : Option (ℕ × Char)}
    (h : IsByteUnit cs letter) : IsUnit cs letter := by
  cases h with
  | plain hb => exact .plain (Or.inr ⟨_, hb, rfl⟩) (Or.inl rfl)
  | lettered hu hc hb => exact .lettered hu hc (Or.inl (Or.inr ⟨_, hb, rfl⟩)) (Or.inl rfl)
  | binary hu hc hi hb => exact .lettered hu hc (Or.inr ⟨_, hi, _, hb, rfl⟩) (Or.inl rfl)

theorem IsByteUnit.ne_nil {cs : List Char} {letter : Option (ℕ × Char)}
    (h : IsByteUnit cs letter) : cs ≠ [] := by
  cases h <;> exact List.cons_ne_nil _ _

/-- No unit has a character that a number, its commas or the blanks behind it may have. -/
theorem IsByteUnit.mem {cs : List Char} {letter : Option (ℕ × Char)} (h : IsByteUnit cs letter) :
    ∀ c ∈ cs, Text.isDecimalDigit c = false ∧ c ≠ '.' ∧ c ≠ ',' ∧ Text.isBlank c = false := by
  have hall : (marks.flatMap forms).all fun c => Text.isDecimalDigit c = false ∧ c ≠ '.' ∧
      c ≠ ',' ∧ Text.isBlank c = false := by decide +kernel
  have hform : ∀ {u c : Char}, u ∈ marks → c ∈ forms u → Text.isDecimalDigit c = false ∧
      c ≠ '.' ∧ c ≠ ',' ∧ Text.isBlank c = false := fun hu hc =>
    List.all_iff_forall_prop.mp hall _ (List.mem_flatMap.mpr ⟨_, hu, hc⟩)
  have hletter : ∀ {k : ℕ} {u : Char}, letters[k]? = some u → u ∈ marks := fun hu => by
    simp [marks, List.mem_of_getElem? hu]
  have hbyte : 'B' ∈ marks := by decide
  have hbinary : 'I' ∈ marks := by decide
  cases h with
  | plain hb => simpa using hform hbyte hb
  | lettered hu hc hb => simpa using ⟨hform (hletter hu) hc, hform hbyte hb⟩
  | binary hu hc hi hb =>
    simpa using ⟨hform (hletter hu) hc, hform hbinary hi, hform hbyte hb⟩

theorem unitToken?_append {cs : List Char} {letter : Option (ℕ × Char)} (h : IsByteUnit cs letter)
    (rest : List Char) : unitToken? (cs ++ rest) = some (cs, rest) := by
  have hletter : ∀ {k : ℕ} {u c : Char}, letters[k]? = some u → c ∈ forms u →
      isLetter 'b' c = false ∧ isUnitLetter c = true := by
    intro k u c hu hc
    have hall : (letters.flatMap forms).all fun c => isLetter 'b' c = false := by decide +kernel
    have hmem := List.mem_flatMap.mpr ⟨u, List.mem_of_getElem? hu, hc⟩
    exact ⟨List.all_iff_forall_prop.mp hall c hmem, isUnitLetter_iff.mpr ⟨k, u, hu, hc⟩⟩
  cases h with
  | plain hb => simp [unitToken?, (isLetter_b _).mpr hb]
  | lettered hu hc hb =>
    obtain ⟨hne, hunit⟩ := hletter hu hc
    simp [unitToken?, hne, hunit, (isLetter_b _).mpr hb]
  | @binary k u c i b hu hc hi hb =>
    obtain ⟨hne, hunit⟩ := hletter hu hc
    have hall : (forms 'I').all fun i => isLetter 'b' i = false := by decide +kernel
    have hi' := List.all_iff_forall_prop.mp hall i hi
    simp [unitToken?, hne, hunit, hi', (isLetter_i i).mpr hi, (isLetter_b b).mpr hb]

theorem exists_of_unitToken? {cs unit rest : List Char} (h : unitToken? cs = some (unit, rest)) :
    ∃ letter, IsByteUnit unit letter ∧ cs = unit ++ rest := by
  unfold unitToken? at h
  split at h
  next a cs =>
    split at h
    next ha =>
      cases h
      exact ⟨none, .plain ((isLetter_b a).mp ha), rfl⟩
    split at h
    next ha =>
      obtain ⟨k, u, hu, ha⟩ := isUnitLetter_iff.mp ha
      split at h
      next b cs =>
        split at h
        next hb =>
          cases h
          exact ⟨some (k, a), .lettered hu ha ((isLetter_b b).mp hb), rfl⟩
        split at h
        next hb =>
          split at h
          next c cs =>
            split at h
            next hc =>
              cases h
              exact ⟨some (k, a), .binary hu ha ((isLetter_i b).mp hb) ((isLetter_b c).mp hc), rfl⟩
            next => cases h
          next => cases h
        next => cases h
      next => cases h
    next => cases h
  next => cases h

/-! ### Sizes in running text -/

section Token

variable {digit : Char → Bool} {cs before token after : List Char} {letter : Option (ℕ × Char)}

/-- A number with commas, blanks and a unit that ends in `B`. -/
def IsToken (cs : List Char) (n : Scan.Grouped digit) (letter : Option (ℕ × Char)) : Prop :=
  ∃ blanks unit, cs = n.text ++ (blanks ++ unit) ∧ (∀ c ∈ blanks, Text.isBlank c = true) ∧
    IsByteUnit unit letter

theorem token?_append (hdigit : ∀ c, digit c = true → Text.isDecimalDigit c = true)
    {n : Scan.Grouped digit} (h : IsToken token n letter) (after : List Char) :
    token? (token ++ after) = some token := by
  obtain ⟨blanks, unit, rfl, hblanks, hunit⟩ := h
  have hhead : ∀ c ∈ (blanks ++ (unit ++ after)).head?,
      Text.isDecimalDigit c = false ∧ c ≠ '.' ∧ c ≠ ',' := by
    intro c hc
    cases blanks with
    | cons b blanks =>
      cases hc
      have hblank := hblanks c List.mem_cons_self
      exact ⟨(Text.not_of_isBlank hblank).1, Text.ne_of_isBlank hblank rfl,
        Text.ne_of_isBlank hblank rfl⟩
    | nil =>
      rw [List.nil_append, List.head?_append_of_ne_nil _ hunit.ne_nil] at hc
      obtain ⟨hdigit, hpoint, hcomma, -⟩ := hunit.mem c (List.mem_of_mem_head? hc)
      exact ⟨hdigit, hpoint, hcomma⟩
  have hends : n.Ends (blanks ++ (unit ++ after)) := by
    refine ⟨fun c hc => (hhead c hc).1, fun _ => ⟨fun c hc => (hhead c hc).2.2, ?_⟩⟩
    intro c cs hcs
    exact absurd rfl (hhead '.' (by rw [hcs]; rfl)).2.1
  have hshown : ∀ c ∈ (unit ++ after).head?, Text.isBlank c = false := by
    intro c hc
    rw [List.head?_append_of_ne_nil _ hunit.ne_nil] at hc
    exact (hunit.mem c (List.mem_of_mem_head? hc)).2.2.2
  have hspan := Scan.spanning_append hblanks hshown
  rw [List.append_assoc, List.append_assoc, token?, Scan.grouped?_append hdigit n hends,
    Option.bind_eq_bind, Option.bind_some]
  dsimp only
  rw [hspan]
  dsimp only
  rw [unitToken?_append hunit, Option.bind_some, List.append_assoc]
  rfl

theorem exists_isToken (h : token? cs = some token) :
    ∃ (after : List Char) (n : Scan.Grouped Text.isDecimalDigit) (letter : Option (ℕ × Char)),
      cs = token ++ after ∧ IsToken token n letter := by
  obtain ⟨⟨digits, rest⟩, hgrouped, h⟩ := Option.bind_eq_some_iff.mp h
  obtain ⟨⟨unit, after⟩, hunit, h⟩ := Option.bind_eq_some_iff.mp h
  cases h
  obtain ⟨n, rfl, rfl⟩ := Scan.exists_of_grouped? hgrouped
  obtain ⟨letter, hletter, hrest⟩ := exists_of_unitToken? hunit
  refine ⟨after, n, letter, ?_, rest.takeWhile Text.isBlank, unit, ?_, ?_, hletter⟩
  · have hsplit : rest = rest.takeWhile Text.isBlank ++ (unit ++ after) := by
      rw [← hrest]
      exact List.takeWhile_append_dropWhile.symm
    rw [List.append_assoc, List.append_assoc, ← hsplit]
  · exact List.append_assoc _ _ _
  · exact fun c hc => List.all_eq_true.mp List.all_takeWhile c hc

/-- Without its commas a size in running text is a size. -/
theorem isSize_cleaned {n : Scan.Grouped Char.isDigit} (h : IsToken token n letter) :
    IsSize (cleaned (String.ofList token)) n.plain letter := by
  obtain ⟨blanks, unit, rfl, hblanks, hunit⟩ := h
  have htrim : Text.trim (n.text ++ (blanks ++ unit)) = n.text ++ (blanks ++ unit) := by
    refine Text.trim_eq_self_iff.mpr ⟨fun c hc => ?_, fun c hc => ?_⟩
    · obtain ⟨d, ds, htext, -⟩ := n.exists_text
      rw [htext] at hc
      cases hc
      exact Scan.Grouped.isBlank_of_mem_text (by rw [htext]; exact List.mem_cons_self)
    · rw [← List.append_assoc, List.getLast?_append_of_ne_nil _ hunit.ne_nil] at hc
      exact (hunit.mem c (List.mem_of_mem_getLast? hc)).2.2.2
  have hrest : Scan.withoutCommas (blanks ++ unit) = blanks ++ unit := by
    refine Scan.withoutCommas_eq_self fun c hc => ?_
    rcases List.mem_append.mp hc with hc | hc
    · exact Text.ne_of_isBlank (hblanks c hc) rfl
    · exact (hunit.mem c hc).2.2.1
  refine ⟨blanks, unit, ?_, hblanks, hunit.isUnit⟩
  rw [cleaned, String.toList_ofList, htrim, Scan.withoutCommas_append, n.withoutCommas_text, hrest]

theorem find_of_isToken {text : String} {n : Scan.Grouped Char.isDigit}
    (htext : text.toList = before ++ (token ++ after)) (h : IsToken token n letter)
    (hdigits : ∀ c ∈ before, Text.isDecimalDigit c = false) (hlast : before.getLast? ≠ some '.') :
    find text = parse (String.ofList token) := by
  have hnone : ∀ cs, cs ≠ [] → cs <:+ before → token? (cs ++ (token ++ after)) = none := by
    intro cs hne hcs
    rw [token?, Scan.grouped?_of_before hdigits hlast hne hcs]
    rfl
  have hfirst : Scan.first? token? text.toList = some token := by
    rw [htext, Scan.first?_append hnone]
    exact Scan.first?_of_some (token?_append (fun _ => Text.isDecimalDigit_of_isDigit) h after)
  rw [find, hfirst, parse, String.toList_ofList]

end Token

/-- A size that stands behind a text without digits is found, and it is the number of bytes that it
says alone: its number without the commas, scaled by its unit, and zero only if the number is too
small for a double. A text without a size says nothing. -/
theorem find_token (text : String) :
    (∀ before token after (n : Scan.Grouped Char.isDigit) letter,
      text.toList = before ++ (token ++ after) → IsToken token n letter →
      (∀ c ∈ before, Text.isDecimalDigit c = false) → before.getLast? ≠ some '.' →
      find text = parse (String.ofList token) ∧
        IsSize (cleaned (String.ofList token)) n.plain letter ∧
        parse (String.ofList token) = n.plain.toFloat * scale (exponent letter) ∧
        Nearest n.plain.toFloat n.plain.value ∧
        Exactly (scale (exponent letter)) (1024 ^ exponent letter) ∧
        ((parse (String.ofList token) == 0.0) = true → n.plain.value ≤ 2 ^ (-1075 : ℤ))) ∧
    ((∀ before token after (n : Scan.Grouped Text.isDecimalDigit) letter,
      text.toList = before ++ (token ++ after) → ¬IsToken token n letter) → find text = 0.0) := by
  constructor
  · intro before token after n letter htext htoken hdigits hlast
    have hsize := isSize_cleaned htoken
    have hparse := parse_of_isSize hsize
    obtain ⟨_, unit, _, _, hunit⟩ := id htoken
    have hk := exponent_lt hunit.isUnit
    refine ⟨find_of_isToken htext htoken hdigits hlast, hsize, hparse, n.plain.nearest,
      exactly_scale hk, fun hzero => ?_⟩
    rw [hparse] at hzero
    exact le_of_isZero_mul_scale n.plain.nearest hk hzero
  · intro hnone
    unfold find
    split
    next token hfirst =>
      obtain ⟨before, rest, htext, htoken⟩ := Scan.exists_of_first? hfirst
      obtain ⟨after, n, letter, rfl, hshape⟩ := exists_isToken htoken
      exact absurd hshape (hnone before token after n letter htext)
    next => rfl

/-- The size in front is the one that is found, not the one in brackets behind it. -/
theorem find_token_listing :
    ∃ n : Scan.Grouped Char.isDigit, n.text = "1,024.5".toList ∧
      find "Size: 1,024.5 KiB (1,049,088 B)" = n.plain.toFloat * scale 1 := by
  let n : Scan.Grouped Char.isDigit :=
    ⟨['1', ',', '0', '2', '4'], ['5'], by simp, by simp, by simp, Or.inl (by simp)⟩
  have htoken : IsToken "1,024.5 KiB".toList n (some (0, 'K')) :=
    ⟨[' '], ['K', 'i', 'B'], rfl, List.forall_mem_singleton.mpr rfl,
      .binary (u := 'K') rfl (by decide) (by decide) (by decide)⟩
  have hbefore : ∀ c ∈ "Size: ".toList, Text.isDecimalDigit c = false := fun c hc =>
    List.all_iff_forall_prop.mp
      (by decide : "Size: ".toList.all fun c => Text.isDecimalDigit c = false) c hc
  have hfind := (find_token "Size: 1,024.5 KiB (1,049,088 B)").1 "Size: ".toList _
    " (1,049,088 B)".toList n _ (by decide) htoken hbefore (by decide)
  exact ⟨n, rfl, hfind.1.trans hfind.2.2.1⟩

end Gleaner.Size
