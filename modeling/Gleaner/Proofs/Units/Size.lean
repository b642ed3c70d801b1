import Gleaner.Proofs.Decimal.Plain
import Gleaner.Proofs.Text.Letter
import Gleaner.Proofs.Units.Finite
import Gleaner.Proofs.Units.Scan

/-!
The texts that are sizes, and the number of bytes that each of them says. The unit letters are taken
without regard to case, and so is the Kelvin sign for `K`, which scales by nothing (`parse_eq`).
-/
namespace Gleaner.Size

open Decimal

/-! ### Units as written -/

def kelvinSign : Char := '\u212a'

/-- The characters that are equal to a capital letter, ignoring case. -/
def forms (u : Char) : List Char :=
  [u, u.toLower] ++ if u = 'K' then [kelvinSign] else if u = 'S' then ['ſ'] else []

/-- The letters that stand in units. -/
def marks : List Char := 'B' :: 'I' :: 'S' :: letters

theorem isLetter_iff {u c : Char} (hu : u ∈ marks) : isLetter u.toLower c = true ↔ c ∈ forms u := by
  have hall : marks.all fun u => u.isUpper = true ∧ u.toLower.isLower = true ∧
      (u.toLower = 's' ↔ u = 'S') ∧ (u.toLower = 'k' ↔ u = 'K') := by decide +kernel
  obtain ⟨hupper, hlower, hs, hk⟩ := List.all_iff_forall_prop.mp hall u hu
  rw [isLetter, decide_eq_true_eq, Text.foldChar_eq_iff hlower, Text.toLower_eq_iff hupper, hs, hk]
  unfold forms kelvinSign
  split
  next hk => simp [hk, or_assoc]
  next hk =>
    split
    next hs => simp [hs, or_assoc]
    next hs => simp [hk, hs]

def IsPlural (cs : List Char) : Prop := cs = [] ∨ ∃ s ∈ forms 'S', cs = [s]

/-- `B` or nothing. -/
def IsByte (cs : List Char) : Prop := cs = [] ∨ ∃ b ∈ forms 'B', cs = [b]

/-- `B`, `iB` or nothing. -/
def IsScaledByte (cs : List Char) : Prop :=
  IsByte cs ∨ ∃ i ∈ forms 'I', ∃ b ∈ forms 'B', cs = [i, b]

/-- A unit as it may be written, and the place and the character of its letter if it has one. -/
inductive IsUnit : List Char → Option (ℕ × Char) → Prop
  | lettered {k : ℕ} {u c : Char} {bytes plural : List Char} (hu : letters[k]? = some u)
      (hc : c ∈ forms u) (hbytes : IsScaledByte bytes) (hplural : IsPlural plural) :
      IsUnit (c :: (bytes ++ plural)) (some (k, c))
  | plain {bytes plural : List Char} (hbytes : IsByte bytes) (hplural : IsPlural plural) :
      IsUnit (bytes ++ plural) none

theorem isLetter_b (c : Char) : isLetter 'b' c = true ↔ c ∈ forms 'B' :=
  isLetter_iff (u := 'B') (by decide)

theorem isLetter_i (c : Char) : isLetter 'i' c = true ↔ c ∈ forms 'I' :=
  isLetter_iff (u := 'I') (by decide)

theorem isLetter_s (c : Char) : isLetter 's' c = true ↔ c ∈ forms 'S' :=
  isLetter_iff (u := 'S') (by decide)

theorem isPlural_iff {cs : List Char} : isPlural cs = true ↔ IsPlural cs := by
  unfold isPlural IsPlural
  split
  next => simp
  next c => simp [isLetter_s]
  next hnil hone =>
    refine iff_of_false Bool.false_ne_true ?_
    rintro (rfl | ⟨s, -, rfl⟩)
    · exact hnil rfl
    · exact hone s rfl

theorem isUnitLetter_iff {c : Char} :
    isUnitLetter c = true ↔ ∃ (k : ℕ) (u : Char), letters[k]? = some u ∧ c ∈ forms u := by
  have hmarks : ∀ u ∈ letters, u ∈ marks :=
    fun u hu => List.mem_cons_of_mem _ (List.mem_cons_of_mem _ (List.mem_cons_of_mem _ hu))
  rw [isUnitLetter, List.any_eq_true]
  constructor
  · rintro ⟨u, hu, hc⟩
    obtain ⟨k, hk⟩ := List.mem_iff_getElem?.mp hu
    exact ⟨k, u, hk, (isLetter_iff (hmarks u hu)).mp hc⟩
  · rintro ⟨k, u, hk, hc⟩
    have hu := List.mem_of_getElem? hk
    exact ⟨u, hu, (isLetter_iff (hmarks u hu)).mpr hc⟩

theorem isLetterTail_iff {cs : List Char} : isLetterTail cs = true ↔
    ∃ bytes plural, cs = bytes ++ plural ∧ IsScaledByte bytes ∧ IsPlural plural := by
  constructor
  · intro h
    cases cs with
    | nil => exact ⟨[], [], rfl, Or.inl (Or.inl rfl), Or.inl rfl⟩
    | cons c cs =>
      simp only [isLetterTail, Bool.or_eq_true, Bool.and_eq_true, isLetter_b, isPlural_iff] at h
      rcases h with (hplural | ⟨hc, hplural⟩) | hbinary
      · exact ⟨[], c :: cs, rfl, Or.inl (Or.inl rfl), hplural⟩
      · exact ⟨[c], cs, rfl, Or.inl (Or.inr ⟨c, hc, rfl⟩), hplural⟩
      · split at hbinary
        next d ds =>
          simp only [Bool.and_eq_true, isLetter_b, isLetter_i, isPlural_iff] at hbinary
          obtain ⟨⟨hc, hd⟩, hplural⟩ := hbinary
          exact ⟨[c, d], ds, rfl, Or.inr ⟨c, hc, d, hd, rfl⟩, hplural⟩
        next => cases hbinary
  · rintro ⟨bytes, plural, rfl, hbytes, hplural⟩
    rcases hbytes with (rfl | ⟨b, hb, rfl⟩) | ⟨i, hi, b, hb, rfl⟩
    · rw [List.nil_append]
      rcases hplural with rfl | ⟨s, hs, rfl⟩
      · rfl
      · simp [isLetterTail, isPlural_iff.mpr (Or.inr ⟨s, hs, rfl⟩)]
    · simp [isLetterTail, (isLetter_b b).mpr hb, isPlural_iff.mpr hplural]
    · simp [isLetterTail, (isLetter_i i).mpr hi, (isLetter_b b).mpr hb, isPlural_iff.mpr hplural]

theorem unit?_of_isUnit {cs : List Char} {letter : Option (ℕ × Char)} (h : IsUnit cs letter) :
    unit? cs = some (letter.map Prod.snd) := by
  cases h with
  | lettered hu hc hbytes hplural =>
    have hletter := isUnitLetter_iff.mpr ⟨_, _, hu, hc⟩
    have htail := isLetterTail_iff.mpr ⟨_, _, rfl, hbytes, hplural⟩
    unfold unit?
    dsimp only
    rw [hletter, htail]
    rfl
  | @plain bytes plural hbytes hplural =>
    have hall : ∀ bytes ∈ [] :: (forms 'B').map ([·]), ∀ plural ∈ [] :: (forms 'S').map ([·]),
        unit? (bytes ++ plural) = some none := by decide +kernel
    refine hall bytes ?_ plural ?_
    · rcases hbytes with rfl | ⟨b, hb, rfl⟩
      · exact List.mem_cons_self
      · exact List.mem_cons_of_mem _ (List.mem_map_of_mem hb)
    · rcases hplural with rfl | ⟨s, hs, rfl⟩
      · exact List.mem_cons_self
      · exact List.mem_cons_of_mem _ (List.mem_map_of_mem hs)

theorem exists_isUnit {cs : List Char} {c : Option Char} (h : unit? cs = some c) :
    ∃ letter, IsUnit cs letter := by
  unfold unit? at h
  split at h
  next => exact ⟨none, .plain (Or.inl rfl) (Or.inl rfl)⟩
  next c cs =>
    split at h
    next hletter =>
      obtain ⟨hc, htail⟩ := Bool.and_eq_true_iff.mp hletter
      obtain ⟨k, u, hu, hc⟩ := isUnitLetter_iff.mp hc
      obtain ⟨bytes, plural, rfl, hbytes, hplural⟩ := isLetterTail_iff.mp htail
      exact ⟨some (k, c), .lettered hu hc hbytes hplural⟩
    split at h
    next hbyte =>
      obtain ⟨hb, hplural⟩ := Bool.and_eq_true_iff.mp hbyte
      have hb : c ∈ forms 'B' := (isLetter_b c).mp hb
      exact ⟨none, .plain (Or.inr ⟨c, hb, rfl⟩) (isPlural_iff.mp hplural)⟩
    split at h
    next hplural => exact ⟨none, .plain (Or.inl rfl) (isPlural_iff.mp hplural)⟩
    next => cases h

/-- A unit starts neither as a number goes on nor with a blank. -/
theorem head_of_isUnit {cs : List Char} {letter : Option (ℕ × Char)} (h : IsUnit cs letter) :
    ∀ c ∈ cs.head?, Text.isDecimalDigit c = false ∧ c ≠ '.' ∧ Text.isBlank c = false := by
  have hall : (marks.flatMap forms).all fun c =>
      Text.isDecimalDigit c = false ∧ c ≠ '.' ∧ Text.isBlank c = false := by decide +kernel
  have hform : ∀ u ∈ marks, ∀ c ∈ forms u,
      Text.isDecimalDigit c = false ∧ c ≠ '.' ∧ Text.isBlank c = false := fun u hu c hc =>
    List.all_iff_forall_prop.mp hall c (List.mem_flatMap.mpr ⟨u, hu, hc⟩)
  intro c hc
  cases h with
  | lettered hu hletter =>
    cases hc
    exact hform _ (by simp [marks, List.mem_of_getElem? hu]) c hletter
  | plain hbytes hplural =>
    rcases hbytes with rfl | ⟨b, hb, rfl⟩
    · rcases hplural with rfl | ⟨s, hs, rfl⟩
      · cases hc
      · cases hc
        exact hform 'S' (by decide) c hs
    · cases hc
      exact hform 'B' (by decide) c hb

/-- The power of 1024 that a unit stands for, by the place and the character of its letter. -/
def exponent (letter : Option (ℕ × Char)) : ℕ :=
  letter.elim 0 fun l => if l.2 = kelvinSign then 0 else l.1 + 1

theorem exponent_lt {cs : List Char} {letter : Option (ℕ × Char)} (h : IsUnit cs letter) :
    exponent letter < 8 := by
  cases h with
  | @lettered k u c _ _ hu =>
    have hk : k < 7 := (List.getElem?_eq_some_iff.mp hu).1
    change (if c = kelvinSign then 0 else k + 1) < 8
    split <;> omega
  | plain => exact Nat.zero_lt_succ 7

theorem power_of_isUnit {cs : List Char} {letter : Option (ℕ × Char)} (h : IsUnit cs letter) :
    (letter.map Prod.snd).elim 0 power = exponent letter := by
  have hall : letters.zipIdx.all fun p => (forms p.1).all fun c =>
      power c = if c = kelvinSign then 0 else p.2 + 1 := by decide +kernel
  cases h with
  | @lettered k u c _ _ hu hc =>
    have hplace := List.all_eq_true.mp hall (u, k) (List.mk_mem_zipIdx_iff_getElem?.mpr hu)
    exact List.all_iff_forall_prop.mp hplace c hc
  | plain => rfl

/-! ### Sizes -/

/-- A number, blanks and a unit. -/
def IsSize (cs : List Char) (m : Plain) (letter : Option (ℕ × Char)) : Prop :=
  ∃ blanks unit, cs = m.text ++ (blanks ++ unit) ∧ (∀ c ∈ blanks, Text.isBlank c = true) ∧
    IsUnit unit letter

theorem magnitude?_text (m : Plain) {rest : List Char}
    (hrest : ∀ c ∈ rest.head?, Text.isDecimalDigit c = false ∧ c ≠ '.') :
    magnitude? (m.text ++ rest) = some (m.text, rest) := by
  have hwhole : Scan.spanning Text.isDecimalDigit (m.whole ++ (point m.part ++ rest)) =
      (m.whole, point m.part ++ rest) := by
    refine Scan.spanning_append
      (fun c hc => Text.isDecimalDigit_of_isDigit (m.whole_digits c hc)) ?_
    intro c hc
    unfold point at hc
    split at hc
    · exact (hrest c hc).1
    · cases hc
      decide
  have hpart := Scan.fraction_point
    (fun c hc => Text.isDecimalDigit_of_isDigit (m.part_digits c hc)) hrest
  have hne : ¬(m.whole.isEmpty && (point m.part).isEmpty) = true := by
    rcases m.nonempty with hne | hne
    · simp [hne]
    · simp [point, hne]
  simp only [magnitude?, Plain.text, List.append_assoc, hwhole, hpart]
  exact if_neg hne

theorem parts?_of_isSize {cs : List Char} {m : Plain} {letter : Option (ℕ × Char)}
    (h : IsSize cs m letter) : parts? cs = some (m.text, letter.map Prod.snd) := by
  obtain ⟨blanks, unit, rfl, hblanks, hunit⟩ := h
  have hhead := head_of_isUnit hunit
  have hrest : ∀ c ∈ (blanks ++ unit).head?, Text.isDecimalDigit c = false ∧ c ≠ '.' := by
    intro c hc
    cases blanks with
    | nil => exact ⟨(hhead c hc).1, (hhead c hc).2.1⟩
    | cons b blanks =>
      cases hc
      have hblank := hblanks c List.mem_cons_self
      exact ⟨(Text.not_of_isBlank hblank).1, Text.ne_of_isBlank hblank rfl⟩
  have hdrop : (blanks ++ unit).dropWhile Text.isBlank = unit :=
    Scan.dropWhile_append hblanks fun c hc => (hhead c hc).2.2
  rw [parts?, magnitude?_text m hrest, Option.bind_eq_bind, Option.bind_some]
  dsimp only
  rw [hdrop, unit?_of_isUnit hunit]
  rfl

theorem exists_of_magnitude? {cs digits rest : List Char}
    (h : magnitude? cs = some (digits, rest)) : ∃ whole part, digits = whole ++ point part ∧
      cs = digits ++ rest ∧ (∀ c ∈ whole ++ part, Text.isDecimalDigit c = true) ∧
      (whole ≠ [] ∨ part ≠ []) := by
  unfold magnitude? Scan.spanning at h
  dsimp only at h
  obtain ⟨part, hpart, hcs, hdigits⟩ := Scan.exists_of_fraction
    (Prod.eta (Scan.fraction (cs.dropWhile Text.isDecimalDigit))).symm
  split at h
  next => cases h
  next hne =>
    cases h
    refine ⟨cs.takeWhile Text.isDecimalDigit, part, by rw [hpart], ?_, ?_, ?_⟩
    · rw [hpart, List.append_assoc, ← hcs, List.takeWhile_append_dropWhile]
    · intro c hc
      rcases List.mem_append.mp hc with hc | hc
      · exact List.all_eq_true.mp List.all_takeWhile c hc
      · exact hdigits c hc
    · by_contra hnone
      rw [not_or, not_not, not_not] at hnone
      rw [hpart, hnone.1, hnone.2] at hne
      exact hne rfl

theorem exists_isSize {cs digits : List Char} {unit : Option Char} {x : Float}
    (hparts : parts? cs = some (digits, unit)) (hx : float? digits = some x) :
    ∃ m letter, IsSize cs m letter := by
  obtain ⟨⟨digits', rest⟩, hmagnitude, h⟩ := Option.bind_eq_some_iff.mp hparts
  obtain ⟨unit', hunit, h⟩ := Option.bind_eq_some_iff.mp h
  cases h
  obtain ⟨letter, hletter⟩ := exists_isUnit hunit
  have hsign := splitSign_of_magnitude? hmagnitude
  obtain ⟨whole, part, rfl, rfl, hdigits, hne⟩ := exists_of_magnitude? hmagnitude
  obtain ⟨m, rfl, rfl⟩ :=
    exists_plain (fun c hc => Text.isDigit_or_wide (hdigits c hc)) hne hsign hx
  refine ⟨m, letter, rest.takeWhile Text.isBlank, rest.dropWhile Text.isBlank, ?_, ?_, hletter⟩
  · rw [List.takeWhile_append_dropWhile]
    rfl
  · exact fun c hc => List.all_eq_true.mp List.all_takeWhile c hc

/-- A text without the blanks around it and the commas in it. -/
def cleaned (text : String) : List Char := Scan.withoutCommas (Text.trim text.toList)

theorem parse_of_isSize {text : String} {m : Plain} {letter : Option (ℕ × Char)}
    (h : IsSize (cleaned text) m letter) :
    parse text = m.toFloat * scale (exponent letter) := by
  obtain ⟨_, unit, _, _, hunit⟩ := id h
  have hparts := parts?_of_isSize h
  unfold cleaned at hparts
  rw [parse, parseChars, hparts]
  dsimp only
  rw [m.float?_text]
  dsimp only
  rw [power_of_isUnit hunit]

theorem exists_isSize_of_parse {text : String} (h : parse text ≠ 0.0) :
    ∃ m letter, IsSize (cleaned text) m letter := by
  unfold parse parseChars at h
  split at h
  next => exact absurd rfl h
  next digits unit hparts =>
    split at h
    next => exact absurd rfl h
    next x hx => exact exists_isSize hparts hx

/-- A number with a unit is scaled by a power of 1024, and every other text is no size. -/
theorem parse_eq (text : String) :
    (∀ m letter, IsSize (cleaned text) m letter →
      parse text = m.toFloat * scale (exponent letter) ∧ Nearest m.toFloat m.value ∧
        Exactly (scale (exponent letter)) (1024 ^ exponent letter)) ∧
    ((∀ m letter, ¬IsSize (cleaned text) m letter) → parse text = 0.0) := by
  constructor
  · intro m letter hsize
    obtain ⟨_, unit, _, _, hunit⟩ := id hsize
    exact ⟨parse_of_isSize hsize, m.nearest, exactly_scale (exponent_lt hunit)⟩
  · intro hnone
    by_contra hne
    obtain ⟨m, letter, hsize⟩ := exists_isSize_of_parse hne
    exact hnone m letter hsize

def one : Plain := ⟨['1'], [], by simp, by simp, Or.inl (by simp)⟩

/-- The Kelvin sign is taken for `K`, but it does not scale. -/
theorem not_scaled_kelvin : ¬∀ (text : String) (m : Plain) (letter : Option (ℕ × Char)),
    IsSize (cleaned text) m letter →
      parse text = m.toFloat * scale (letter.elim 0 fun l => l.1 + 1) := by
  intro h
  have hsize : IsSize (cleaned "1 \u212a") one (some (0, kelvinSign)) := by
    refine ⟨[' '], [kelvinSign], by decide +kernel, List.forall_mem_singleton.mpr rfl, ?_⟩
    exact .lettered (k := 0) (u := 'K') rfl (by decide) (Or.inl (Or.inl rfl)) (Or.inl rfl)
  have hscaled := h "1 \u212a" one (some (0, kelvinSign)) hsize
  rw [parse_of_isSize hsize] at hscaled
  have hone : one.toFloat = 1.0 := by decide +kernel
  have hne : (1.0 * scale 0 : Float) ≠ 1.0 * scale 1 := by decide +kernel
  rw [hone] at hscaled
  exact hne hscaled

end Gleaner.Size
