import Gleaner.Proofs.Text.Find
import Mathlib

/-!
Blanks, digits and letters beyond ASCII. Blanks are neither digits nor letters (`not_of_isBlank`),
and two characters beyond ASCII fold to an ASCII letter: the Kelvin sign and the long s
(`foldChar_eq_iff`).
-/
namespace Gleaner.Text

/-! ### Blanks and digits -/

def blanks : List Char :=
  ['\t', '\n', '\x0b', '\x0c', '\x0d', ' ', '\u0085', '\u00a0', '\u1680', '\u2000', '\u2001',
    '\u2002', '\u2003', '\u2004', '\u2005', '\u2006', '\u2007', '\u2008', '\u2009', '\u200a',
    '\u2028', '\u2029', '\u202f', '\u205f', '\u3000']

theorem mem_blanks {c : Char} (h : isBlank c = true) : c ∈ blanks := by
  have hcode : c.toNat ∈ blanks.map Char.toNat := by
    simp only [isBlank, Bool.or_eq_true, Bool.and_eq_true, decide_eq_true_eq, beq_iff_eq] at h
    simp [blanks]
    omega
  obtain ⟨d, hd, hcode⟩ := List.mem_map.mp hcode
  rwa [← Char.toNat_inj.mp hcode]

theorem not_of_isBlank {c : Char} (h : isBlank c = true) :
    isDecimalDigit c = false ∧ isHan c = false ∧ c.isAlpha = false := by
  have hall : blanks.all fun c =>
      isDecimalDigit c = false ∧ isHan c = false ∧ c.isAlpha = false := by decide +kernel
  exact List.all_iff_forall_prop.mp hall c (mem_blanks h)

theorem isDecimalDigit_of_isDigit {c : Char} (h : c.isDigit = true) : isDecimalDigit c = true := by
  have hbounds := toNat_of_isDigit h
  refine List.any_eq_true.mpr ⟨(0x30, 0x39), by decide, ?_⟩
  simpa using hbounds

theorem isDigit_or_wide {c : Char} (h : isDecimalDigit c = true) :
    c.isDigit = true ∨ 128 ≤ c.toNat := by
  have hruns : ∀ r ∈ decimalDigits, r = (0x30, 0x39) ∨ 128 ≤ r.1 := by decide
  obtain ⟨r, hr, hwithin⟩ := List.any_eq_true.mp h
  simp only [Bool.and_eq_true, decide_eq_true_eq] at hwithin
  rcases hruns r hr with rfl | hwide
  · exact Or.inl (Char.isDigit_iff_toNat.mpr hwithin)
  · exact Or.inr (hwide.trans hwithin.1)

theorem wide_of_isHan {c : Char} (h : isHan c = true) : 128 ≤ c.toNat := by
  have hruns : ∀ r ∈ hanRanges, 128 ≤ r.1 := by decide
  obtain ⟨r, hr, hwithin⟩ := List.any_eq_true.mp h
  simp only [Bool.and_eq_true, decide_eq_true_eq] at hwithin
  exact (hruns r hr).trans hwithin.1

theorem not_of_isAlpha {c : Char} (h : c.isAlpha = true) :
    isDecimalDigit c = false ∧ isHan c = false := by
  have hbounds := toNat_of_isAlpha h
  constructor
  · refine Bool.of_not_eq_true fun hdigit => ?_
    rcases isDigit_or_wide hdigit with hdigit | hwide
    · rw [isDigit_of_isAlpha h] at hdigit
      cases hdigit
    · omega
  · refine Bool.of_not_eq_true fun hhan => ?_
    have := wide_of_isHan hhan
    omega

/-! ### Letter case -/

theorem toNat_toLower (c : Char) :
    c.toLower.toNat = if 65 ≤ c.toNat ∧ c.toNat ≤ 90 then c.toNat + 32 else c.toNat := by
  by_cases hupper : c.isUpper = true
  · have hbounds : 65 ≤ c.toNat ∧ c.toNat ≤ 90 := of_decide_eq_true hupper
    have hvalid : (c.toNat + 32).isValidChar := Or.inl (by omega)
    rw [if_pos hbounds, Char.toLower_eq_of_isUpper hupper, Char.toNat_ofNat, if_pos hvalid]
  · have hbounds : ¬(65 ≤ c.toNat ∧ c.toNat ≤ 90) := fun h => hupper (decide_eq_true h)
    rw [if_neg hbounds, Char.toLower_eq_of_not_isUpper hupper]

theorem toLower_eq_iff {u c : Char} (hu : u.isUpper = true) :
    c.toLower = u.toLower ↔ c = u ∨ c = u.toLower := by
  have hupper : 65 ≤ u.toNat ∧ u.toNat ≤ 90 := of_decide_eq_true hu
  have hu' := toNat_toLower u
  have hc' := toNat_toLower c
  rw [← Char.toNat_inj, ← Char.toNat_inj, ← Char.toNat_inj, hu', hc']
  rw [if_pos hupper]
  split <;> omega

theorem toLower_eq_self {c : Char} (h : c.toNat < 65 ∨ 90 < c.toNat) : c.toLower = c := by
  refine Char.toLower_eq_of_not_isUpper fun hupper => ?_
  have hbounds : 65 ≤ c.toNat ∧ c.toNat ≤ 90 := of_decide_eq_true hupper
  omega

theorem map_toLower_eq_self {cs : List Char} (h : ∀ c ∈ cs, c.toNat < 65 ∨ 90 < c.toNat) :
    cs.map Char.toLower = cs :=
  (List.map_congr_left fun c hc => toLower_eq_self (h c hc)).trans (List.map_id cs)

/-- Beyond ASCII no letter has another case. -/
theorem SameButCase.eq_of_wide {a b : List Char} (h : SameButCase a b)
    (hb : ∀ c ∈ b, 128 ≤ c.toNat) : a = b := by
  have hwide : ∀ c ∈ b, c.toNat < 65 ∨ 90 < c.toNat := fun c hc => by
    have := hb c hc
    omega
  have hlower : a.map Char.toLower = b := h.trans (map_toLower_eq_self hwide)
  have hsame : a.map Char.toLower = a := map_toLower_eq_self fun c hc => by
    have hcode := toNat_toLower c
    have := hb c.toLower (hlower ▸ List.mem_map_of_mem hc)
    split at hcode <;> omega
  exact hsame.symm.trans hlower

theorem lowerFrom_of_ascii {cs : List Char} (h : ∀ c ∈ cs, c.toNat < 128) (before : List Char) :
    lowerFrom before cs = cs.map Char.toLower := by
  induction cs generalizing before with
  | nil => rfl
  | cons c cs ih =>
    have hascii := h c List.mem_cons_self
    have hsigma : c ≠ 'Σ' := by
      rintro rfl
      revert hascii
      decide
    rw [lowerFrom, if_neg (by simpa using hsigma), lowerChar_of_ascii hascii,
      ih (fun d hd => h d (List.mem_cons_of_mem c hd))]
    rfl

theorem exists_run {runs : List CaseRun} {n m : ℕ} (h : shifted? runs.toArray n = some m) :
    ∃ r ∈ runs, r.image? n = some m := by
  unfold shifted? at h
  obtain ⟨back, -, hback⟩ := List.exists_of_findSome?_eq_some h
  split at hback
  next =>
    obtain ⟨r, hr, himage⟩ := Option.bind_eq_some_iff.mp hback
    rw [List.getElem?_toArray] at hr
    exact ⟨r, List.mem_of_getElem? hr, himage⟩
  next => cases hback

theorem fold_runs : ∀ r ∈ foldRuns, 128 ≤ r.start + r.shift ∨
    r.start = 0x17f ∧ r.count = 1 ∧ r.shift = 's'.toNat - 0x17f ∨
    r.start = 0x212a ∧ r.count = 1 ∧ r.shift = 'k'.toNat - 0x212a := by
  decide +kernel

theorem fold_to_ascii {n m : ℕ} (h : shifted? foldTable n = some m) (hm : m < 128) :
    n = 0x17f ∧ m = 's'.toNat ∨ n = 0x212a ∧ m = 'k'.toNat := by
  obtain ⟨r, hr, himage⟩ := exists_run h
  unfold CaseRun.image? at himage
  split at himage
  next hwithin =>
    simp only [Bool.and_eq_true, decide_eq_true_eq] at hwithin
    obtain ⟨⟨hstart, hstop⟩, -⟩ := hwithin
    have hmoved := Option.some.inj himage
    rw [Int.ofNat_eq_natCast] at hmoved
    unfold CaseRun.stop at hstop
    rcases fold_runs r hr with hfar | ⟨hs, hcount, hshift⟩ | ⟨hs, hcount, hshift⟩
    · omega
    · rw [hcount, Nat.sub_self, Nat.zero_mul] at hstop
      exact Or.inl ⟨by omega, by omega⟩
    · rw [hcount, Nat.sub_self, Nat.zero_mul] at hstop
      exact Or.inr ⟨by omega, by omega⟩
  next => cases himage

theorem ascii_of_toLower {c : Char} (h : c.toLower.isLower = true) : c.toNat < 128 := by
  rw [Char.isLower_toLower_eq_isAlpha] at h
  have hbounds := toNat_of_isAlpha h
  omega

theorem foldChar_eq_iff {c u : Char} (hu : u.isLower = true) :
    foldChar c = u ↔ c.toLower = u ∨ c = 'ſ' ∧ u = 's' ∨ c = '\u212a' ∧ u = 'k' := by
  have hletter : 97 ≤ u.toNat ∧ u.toNat ≤ 122 := by
    obtain ⟨hlow, hhigh⟩ := Bool.and_eq_true_iff.mp hu
    exact ⟨of_decide_eq_true hlow, of_decide_eq_true hhigh⟩
  constructor
  · intro h
    unfold foldChar at h
    split at h
    next => exact Or.inl h
    next hwide =>
      unfold shiftedChar at h
      cases hshift : shifted? foldTable c.toNat with
      | none =>
        rw [hshift, Option.map_none, Option.getD_none] at h
        rw [h] at hwide
        omega
      | some m =>
        rw [hshift, Option.map_some, Option.getD_some] at h
        have hm : u.toNat = m := by
          have hcode := Char.toNat_ofNat m
          rw [h] at hcode
          split at hcode <;> omega
        rcases fold_to_ascii hshift (by omega) with ⟨hc, hs⟩ | ⟨hc, hk⟩
        · exact Or.inr (Or.inl ⟨Char.toNat_inj.mp hc, Char.toNat_inj.mp (hm.trans hs)⟩)
        · exact Or.inr (Or.inr ⟨Char.toNat_inj.mp hc, Char.toNat_inj.mp (hm.trans hk)⟩)
  · rintro (h | ⟨rfl, rfl⟩ | ⟨rfl, rfl⟩)
    · rw [foldChar_of_ascii (ascii_of_toLower (h ▸ hu)), h]
    · decide +kernel
    · decide +kernel

end Gleaner.Text
