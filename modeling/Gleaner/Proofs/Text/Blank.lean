import Gleaner.Text.Blank
import Mathlib.Data.List.DropRight

/-!
Texts that trimming leaves as they are: those that neither start nor end with a blank
(`trim_eq_self_iff`). A trimmed text is one of them, and it is empty just when there was nothing but
blanks (`trim_eq_nil_iff`).
-/
namespace Gleaner.Text

theorem toNat_of_isDigit {c : Char} (h : c.isDigit = true) : 48 ≤ c.toNat ∧ c.toNat ≤ 57 := by
  simp only [Char.isDigit, Bool.and_eq_true, decide_eq_true_eq] at h
  exact h

theorem toNat_of_isAlpha {c : Char} (h : c.isAlpha = true) : 65 ≤ c.toNat ∧ c.toNat ≤ 122 := by
  have hkind : c.isUpper = true ∨ c.isLower = true := Bool.or_eq_true_iff.mp h
  rcases hkind with hupper | hlower
  · have hbounds : 65 ≤ c.toNat ∧ c.toNat ≤ 90 := of_decide_eq_true hupper
    omega
  · obtain ⟨hlow, hhigh⟩ := Bool.and_eq_true_iff.mp hlower
    have hbounds : 97 ≤ c.toNat ∧ c.toNat ≤ 122 :=
      ⟨of_decide_eq_true hlow, of_decide_eq_true hhigh⟩
    omega

theorem isAlpha_of_toLower {c : Char} (h : c.toLower.isAlpha = true) : c.isAlpha = true := by
  unfold Char.toLower at h
  split at h
  next hupper =>
    have hup : c.isUpper = true := decide_eq_true hupper
    exact Bool.or_eq_true_iff.mpr (Or.inl hup)
  next => exact h

theorem isDigit_of_isAlpha {c : Char} (h : c.isAlpha = true) : c.isDigit = false := by
  have halpha := toNat_of_isAlpha h
  refine Bool.of_not_eq_true fun hdigit => ?_
  have hbounds := toNat_of_isDigit hdigit
  omega

theorem isBlank_of_graphic {c : Char} (hlow : 0x20 < c.toNat) (hhigh : c.toNat < 0x7f) :
    isBlank c = false := by
  simp only [isBlank, Bool.or_eq_false_iff, Bool.and_eq_false_iff, beq_eq_false_iff_ne,
    decide_eq_false_iff_not]
  omega

theorem isBlank_of_isDigit {c : Char} (h : c.isDigit = true) : isBlank c = false := by
  obtain ⟨hlow, hhigh⟩ := toNat_of_isDigit h
  exact isBlank_of_graphic (by omega) (by omega)

theorem isDigit_of_isBlank {c : Char} (h : isBlank c = true) : c.isDigit = false := by
  refine Bool.of_not_eq_true fun hdigit => ?_
  rw [isBlank_of_isDigit hdigit] at h
  cases h

theorem isBlank_of_isAlpha {c : Char} (h : c.isAlpha = true) : isBlank c = false := by
  obtain ⟨hlow, hhigh⟩ := toNat_of_isAlpha h
  exact isBlank_of_graphic (by omega) (by omega)

theorem ne_of_isBlank {c d : Char} (hc : isBlank c = true) (hd : isBlank d = false) : c ≠ d := by
  rintro rfl
  rw [hc] at hd
  cases hd

theorem trimStart_cons {c : Char} (h : isBlank c = false) (cs : List Char) :
    trimStart (c :: cs) = c :: cs :=
  List.dropWhile_cons_of_neg (by simp [h])

theorem trimStart_eq_self {cs : List Char} (h : ∀ c ∈ cs.head?, isBlank c = false) :
    trimStart cs = cs := by
  cases cs with
  | nil => rfl
  | cons c cs => exact trimStart_cons (h c rfl) cs

theorem trimEnd_eq_self {cs : List Char} (h : ∀ c ∈ cs.getLast?, isBlank c = false) :
    trimEnd cs = cs := by
  have hhead : ∀ c ∈ cs.reverse.head?, isBlank c = false := by
    rw [List.head?_reverse]
    exact h
  have hreverse : trimStart cs.reverse = cs.reverse := trimStart_eq_self hhead
  unfold trimStart at hreverse
  rw [trimEnd, hreverse, List.reverse_reverse]

theorem head?_trim (cs : List Char) : ∀ c ∈ (trim cs).head?, isBlank c = false := by
  intro c hc
  obtain ⟨blanks, hblanks⟩ := List.rdropWhile_prefix isBlank (trimStart cs)
  change trim cs ++ blanks = trimStart cs at hblanks
  apply head?_trimStart cs c
  rw [← hblanks, List.head?_append, Option.mem_def.mp hc]
  rfl

theorem trim_eq_self_iff {cs : List Char} :
    trim cs = cs ↔
      (∀ c ∈ cs.head?, isBlank c = false) ∧ ∀ c ∈ cs.getLast?, isBlank c = false := by
  constructor
  · intro h
    exact ⟨h ▸ head?_trim cs, h ▸ getLast?_trimEnd (trimStart cs)⟩
  · rintro ⟨hhead, hlast⟩
    rw [trim, trimStart_eq_self hhead, trimEnd_eq_self hlast]

theorem trim_trim (cs : List Char) : trim (trim cs) = trim cs :=
  trim_eq_self_iff.mpr ⟨head?_trim cs, getLast?_trimEnd (trimStart cs)⟩

theorem trim_eq_nil_iff {cs : List Char} : trim cs = [] ↔ ∀ c ∈ cs, isBlank c = true := by
  constructor
  · intro h
    have hall : ∀ c ∈ trimStart cs, isBlank c = true := List.rdropWhile_eq_nil_iff.mp h
    have hempty : trimStart cs = [] := by
      cases hstart : trimStart cs with
      | nil => rfl
      | cons c rest =>
        have hblank := hall c (by simp [hstart])
        have hshown := head?_trimStart cs c (by simp [hstart])
        simp [hblank] at hshown
    exact List.dropWhile_eq_nil_iff.mp hempty
  · intro h
    have hempty : trimStart cs = [] := List.dropWhile_eq_nil_iff.mpr h
    rw [trim, hempty]
    rfl

theorem blank_iff {s : String} : blank s = true ↔ trim s.toList = [] := by
  rw [blank, List.all_eq_true, trim_eq_nil_iff]

theorem trimmed_eq_self_iff {s : String} : trimmed s = s ↔ trim s.toList = s.toList := by
  rw [trimmed, ← String.toList_inj, String.toList_ofList]

theorem getLast?_append {front back : List Char}
    (hfront : ∀ c ∈ front.getLast?, isBlank c = false)
    (hback : ∀ c ∈ back.getLast?, isBlank c = false) :
    ∀ c ∈ (front ++ back).getLast?, isBlank c = false := by
  intro c hc
  rw [List.getLast?_append] at hc
  rcases Option.or_eq_some_iff.mp hc with hc | ⟨-, hc⟩
  · exact hback c hc
  · exact hfront c hc

theorem trim_append {front back : List Char} (hfront : trim front = front)
    (hback : trim back = back) : trim (front ++ back) = front ++ back := by
  obtain ⟨hfirst, hlast⟩ := trim_eq_self_iff.mp hfront
  obtain ⟨hfirst', hlast'⟩ := trim_eq_self_iff.mp hback
  apply trim_eq_self_iff.mpr
  refine ⟨fun c hc => ?_, getLast?_append hlast hlast'⟩
  rw [List.head?_append] at hc
  cases hhead : front.head? with
  | some d => exact hfirst c (by simpa [hhead] using hc)
  | none => exact hfirst' c (by simpa [hhead] using hc)

/-- Blanks on both sides are trimmed off. -/
theorem trim_between {before cs after : List Char} (hbefore : ∀ c ∈ before, isBlank c = true)
    (hafter : ∀ c ∈ after, isBlank c = true) (hcs : trim cs = cs) (hne : cs ≠ []) :
    trim (before ++ (cs ++ after)) = cs := by
  obtain ⟨hfirst, hlast⟩ := trim_eq_self_iff.mp hcs
  have hstart : trimStart (before ++ (cs ++ after)) = cs ++ after := by
    rw [trimStart, List.dropWhile_append_of_pos hbefore]
    apply trimStart_eq_self
    rwa [List.head?_append_of_ne_nil _ hne]
  have hend : trimEnd (cs ++ after) = cs := by
    rw [trimEnd, List.reverse_append, List.dropWhile_append_of_pos (by simpa using hafter)]
    exact trimEnd_eq_self hlast
  rw [trim, hstart, hend]

end Gleaner.Text
