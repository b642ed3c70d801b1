import Gleaner.Proofs.Decimal.Double
import Gleaner.Proofs.Decimal.Numeral

/-!
Plain decimal numbers: ASCII digits, perhaps with a fraction, and without a sign or an exponent.
Each is read as the double nearest to its value (`Plain.float?_text`, `Plain.nearest`), and digits
with a point that are read at all make one (`exists_plain`).
-/
namespace Gleaner.Decimal

/-! ### Texts without letters -/

/-- No character is an ASCII letter. -/
def Unlettered (cs : List Char) : Prop := ∀ c ∈ cs, c.toNat < 58 ∨ 128 ≤ c.toNat

namespace Unlettered

variable {cs : List Char}

theorem lower (h : Unlettered cs) : cs.map Char.toLower = cs :=
  Text.map_toLower_eq_self fun c hc => by
    have := h c hc
    omega

theorem not_mem (h : Unlettered cs) {c : Char} (hlow : 58 ≤ c.toNat) (hhigh : c.toNat < 128) :
    c ∉ cs := fun hc => by
  have := h c hc
  omega

/-- No word is read, only a number. -/
theorem read? (h : Unlettered cs) (hsign : splitSign cs = (false, cs)) :
    Numeral.read? cs = (unsigned? false cs).map .finite := by
  refine read?_of_not_mem_words hsign fun hword => ?_
  have hletters : words.all fun word => word.toList.any fun c => 58 ≤ c.toNat && c.toNat < 128 := by
    decide
  obtain ⟨c, hc, hletter⟩ := List.any_eq_true.mp (List.all_eq_true.mp hletters _ hword)
  rw [h.lower, String.toList_ofList] at hc
  rw [Bool.and_eq_true, decide_eq_true_eq, decide_eq_true_eq] at hletter
  exact h.not_mem hletter.1 hletter.2 hc

theorem exponent? (h : Unlettered cs) : Decimal.exponent? cs = some (0, cs) := by
  cases cs with
  | nil => rfl
  | cons c cs =>
    have hmark : ¬(c = 'e' ∨ c = 'E') := by
      rintro (rfl | rfl)
      · exact h.not_mem (by decide) (by decide) List.mem_cons_self
      · exact h.not_mem (by decide) (by decide) List.mem_cons_self
    exact if_neg hmark

/-- A number that is read is made of ASCII digits and a point. -/
theorem digits_of_unsigned? (h : Unlettered cs) {negative : Bool} {d : Scaled}
    (hd : unsigned? negative cs = some d) : ∀ c ∈ cs, c.isDigit = true ∨ c = '.' := by
  have hrest : Unlettered (cs.dropWhile Char.isDigit) :=
    fun c hc => h c ((List.dropWhile_sublist _).subset hc)
  intro c hc
  rw [← List.takeWhile_append_dropWhile (p := Char.isDigit) (l := cs)] at hc
  rcases List.mem_append.mp hc with hwhole | hpart
  · exact Or.inl (List.all_eq_true.mp List.all_takeWhile c hwhole)
  unfold unsigned? at hd
  dsimp only at hd
  split at hd
  next ds hds =>
    rw [hds] at hpart hrest
    have hafter : Unlettered (ds.dropWhile Char.isDigit) :=
      fun c hc => hrest c (List.mem_cons_of_mem _ ((List.dropWhile_sublist _).subset hc))
    rw [hafter.exponent?] at hd
    split at hd
    · cases hd
    split at hd
    next e heq =>
      have hnil := (Prod.mk.inj (Option.some.inj heq)).2
      rcases List.mem_cons.mp hpart with rfl | hpart
      · exact Or.inr rfl
      · exact Or.inl (List.dropWhile_eq_nil_iff.mp hnil c hpart)
    · cases hd
  next =>
    rw [hrest.exponent?] at hd
    split at hd
    · cases hd
    split at hd
    next e heq =>
      rw [(Prod.mk.inj (Option.some.inj heq)).2] at hpart
      cases hpart
    · cases hd

end Unlettered

/-! ### Numbers -/

/-- A fraction with its point, if it has digits. -/
def point (part : List Char) : List Char := if part = [] then [] else '.' :: part

theorem mem_point {part : List Char} {c : Char} (hc : c ∈ point part) : c = '.' ∨ c ∈ part := by
  unfold point at hc
  split at hc
  next => cases hc
  next => exact List.mem_cons.mp hc

theorem mem_point_of_mem {part : List Char} {c : Char} (hc : c ∈ part) : c ∈ point part := by
  unfold point
  rw [if_neg (List.ne_nil_of_mem hc)]
  exact List.mem_cons_of_mem '.' hc

/-- `digits`, `digits.digits` or `.digits`. -/
structure Plain where
  whole : List Char
  part : List Char
  whole_digits : ∀ c ∈ whole, c.isDigit = true
  part_digits : ∀ c ∈ part, c.isDigit = true
  nonempty : whole ≠ [] ∨ part ≠ []

namespace Plain

def text (m : Plain) : List Char := m.whole ++ point m.part

def value (m : Plain) : ℚ := digitsValue (m.whole ++ m.part) / 10 ^ m.part.length

def scaled (m : Plain) : Scaled := ⟨false, digitsValue (m.whole ++ m.part), -m.part.length⟩

def toFloat (m : Plain) : Float := m.scaled.toFloat

theorem nearest (m : Plain) : Nearest m.toFloat m.value := by
  obtain ⟨x, hx, hfloat⟩ := m.scaled.exists_nearest
  have hsize : m.scaled.size = m.value := by
    rw [Scaled.size, value, div_eq_mul_inv, ← zpow_natCast, ← zpow_neg]
    rfl
  rw [toFloat, hfloat, ← hsize]
  exact hx

theorem isMantissa (m : Plain) : IsMantissa m.text m.whole m.part := by
  unfold text
  by_cases hpart : m.part = []
  · have hne : m.whole ≠ [] := m.nonempty.resolve_right (not_not_intro hpart)
    rw [point, if_pos hpart, List.append_nil, hpart]
    exact .whole m.whole_digits hne
  · rw [point, if_neg hpart]
    by_cases hwhole : m.whole = []
    · rw [hwhole]
      exact .part m.part_digits hpart
    · exact .pointed m.whole_digits hwhole m.part_digits

/-- A plain number is a numeral behind whatever sign. -/
theorem isNumeral (m : Plain) {sign : List Char} {negative : Bool} (hsign : IsSign sign negative) :
    IsNumeral (sign ++ m.text) { m.scaled with negative } := by
  have h := IsNumeral.mk hsign m.isMantissa .none
  rwa [List.append_nil, zero_sub] at h

theorem float?_text (m : Plain) : float? m.text = some m.toFloat :=
  (m.isNumeral .none).float?

end Plain

/-- Digits of whatever script make a number only if they are ASCII digits. -/
theorem exists_plain {whole part : List Char}
    (hdigits : ∀ c ∈ whole ++ part, c.isDigit = true ∨ 128 ≤ c.toNat)
    (hne : whole ≠ [] ∨ part ≠ [])
    (hsign : splitSign (whole ++ point part) = (false, whole ++ point part))
    {x : Float} (h : float? (whole ++ point part) = some x) :
    ∃ m : Plain, m.whole = whole ∧ m.part = part := by
  have hunlettered : Unlettered (whole ++ point part) := by
    intro c hc
    have hcase : c = '.' ∨ c ∈ whole ++ part := by
      rcases List.mem_append.mp hc with hwhole | hpoint
      · exact Or.inr (List.mem_append_left _ hwhole)
      · exact (mem_point hpoint).imp_right (List.mem_append_right _)
    rcases hcase with rfl | hc
    · decide
    rcases hdigits c hc with hdigit | hwide
    · have := Text.toNat_of_isDigit hdigit
      omega
    · exact Or.inr hwide
  obtain ⟨n, hread, -⟩ := Option.map_eq_some_iff.mp h
  rw [hunlettered.read? hsign] at hread
  obtain ⟨d, hd, -⟩ := Option.map_eq_some_iff.mp hread
  have hall : ∀ c ∈ whole ++ part, c.isDigit = true := by
    intro c hc
    have htext : c ∈ whole ++ point part := by
      rcases List.mem_append.mp hc with hwhole | hpart
      · exact List.mem_append_left _ hwhole
      · exact List.mem_append_right _ (mem_point_of_mem hpart)
    rcases hunlettered.digits_of_unsigned? hd c htext with hdigit | rfl
    · exact hdigit
    · exact (hdigits '.' hc).resolve_right (by decide)
  exact ⟨⟨whole, part, fun c hc => hall c (List.mem_append_left _ hc),
    fun c hc => hall c (List.mem_append_right _ hc), hne⟩, rfl, rfl⟩

end Gleaner.Decimal
