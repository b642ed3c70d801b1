import Gleaner.Proofs.Decimal.Digits
import Gleaner.Proofs.Text.Letter

/-!
Decimal numerals as they may be written: a sign, digits with at most one point, and an exponent.
Whatever is written so is read, as the number that it says (`IsNumeral.float?`).
-/
namespace Gleaner.Decimal

/-! ### The parts of a numeral -/

/-- A sign or none, and whether it is a minus. -/
inductive IsSign : List Char → Bool → Prop
  | none : IsSign [] false
  | plus : IsSign ['+'] false
  | minus : IsSign ['-'] true

/-- Digits with a point among or beside them, and those in front of the point and behind it. -/
inductive IsMantissa : List Char → List Char → List Char → Prop
  | whole {whole : List Char} (hwhole : ∀ c ∈ whole, c.isDigit = true) (hne : whole ≠ []) :
      IsMantissa whole whole []
  | pointed {whole part : List Char} (hwhole : ∀ c ∈ whole, c.isDigit = true) (hne : whole ≠ [])
      (hpart : ∀ c ∈ part, c.isDigit = true) : IsMantissa (whole ++ '.' :: part) whole part
  | part {part : List Char} (hpart : ∀ c ∈ part, c.isDigit = true) (hne : part ≠ []) :
      IsMantissa ('.' :: part) [] part

/-- A complete exponent or none, and its value. -/
inductive IsExponent : List Char → ℤ → Prop
  | none : IsExponent [] 0
  | marked {mark : Char} {sign digits : List Char} {negative : Bool}
      (hmark : mark = 'e' ∨ mark = 'E') (hsign : IsSign sign negative)
      (hdigits : ∀ c ∈ digits, c.isDigit = true) (hne : digits ≠ []) :
      IsExponent (mark :: (sign ++ digits))
        (if negative then -(digitsValue digits : ℤ) else digitsValue digits)

/-- A numeral and the number that it says. -/
inductive IsNumeral : List Char → Scaled → Prop
  | mk {sign mantissa whole part exponent : List Char} {negative : Bool} {e : ℤ}
      (hsign : IsSign sign negative) (hmantissa : IsMantissa mantissa whole part)
      (hexponent : IsExponent exponent e) :
      IsNumeral (sign ++ (mantissa ++ exponent))
        ⟨negative, digitsValue (whole ++ part), e - part.length⟩

theorem noDigit_nil : NoDigit [] := by rintro c ⟨⟩

theorem noDigit_cons {c : Char} (hc : c.isDigit = false) (cs : List Char) : NoDigit (c :: cs) := by
  rintro d ⟨⟩
  exact hc

theorem IsMantissa.mem {cs whole part : List Char} (h : IsMantissa cs whole part) :
    ∀ c ∈ cs, c.isDigit = true ∨ c = '.' := by
  intro c hc
  cases h with
  | whole hwhole hne => exact Or.inl (hwhole c hc)
  | pointed hwhole hne hpart =>
    rcases List.mem_append.mp hc with hc | hc
    · exact Or.inl (hwhole c hc)
    · exact (List.mem_cons.mp hc).symm.imp_left (hpart c)
  | part hpart hne => exact (List.mem_cons.mp hc).symm.imp_left (hpart c)

theorem IsMantissa.exists_cons {cs whole part : List Char} (h : IsMantissa cs whole part) :
    ∃ c rest, cs = c :: rest ∧ (c.isDigit = true ∨ c = '.') := by
  have hne : cs ≠ [] := by
    cases h with
    | whole hwhole hne => exact hne
    | pointed hwhole hne hpart => simp
    | part hpart hne => exact List.cons_ne_nil _ _
  obtain ⟨c, rest, rfl⟩ := List.exists_cons_of_ne_nil hne
  exact ⟨c, rest, rfl, h.mem c List.mem_cons_self⟩

theorem IsExponent.noDigit {cs : List Char} {e : ℤ} (h : IsExponent cs e) : NoDigit cs := by
  cases h with
  | none => exact noDigit_nil
  | marked hmark => rcases hmark with rfl | rfl <;> exact noDigit_cons rfl _

theorem IsExponent.not_point {cs : List Char} {e : ℤ} (h : IsExponent cs e) :
    ∀ rest, cs ≠ '.' :: rest := by
  rintro rest rfl
  cases h with
  | marked hmark => rcases hmark with h | h <;> cases h

/-! ### Reading them -/

theorem IsSign.splitSign {sign : List Char} {negative : Bool} (h : IsSign sign negative) {c : Char}
    (hc : c.isDigit = true ∨ c = '.') (rest : List Char) :
    Decimal.splitSign (sign ++ c :: rest) = (negative, c :: rest) := by
  cases h with
  | plus => rfl
  | minus => rfl
  | none =>
    rw [List.nil_append]
    unfold Decimal.splitSign
    split
    next heq =>
      cases heq
      exact absurd hc (by decide)
    next heq =>
      cases heq
      exact absurd hc (by decide)
    next => rfl

theorem exponent?_cons {mark : Char} (hmark : mark = 'e' ∨ mark = 'E') {cs digits : List Char}
    {negative : Bool} (hsign : Decimal.splitSign cs = (negative, digits))
    (hdigits : ∀ c ∈ digits, c.isDigit = true) (hne : digits ≠ []) :
    Decimal.exponent? (mark :: cs) =
      some (if negative then -(digitsValue digits : ℤ) else digitsValue digits, []) := by
  have hall := takeWhile_digits hdigits noDigit_nil
  have hend := dropWhile_digits hdigits noDigit_nil
  rw [List.append_nil] at hall hend
  unfold Decimal.exponent?
  dsimp only
  rw [if_pos hmark]
  unfold Decimal.splitSign at hsign
  split at hsign <;>
  · cases hsign
    simp [hall, hend, hne]

theorem IsExponent.exponent? {cs : List Char} {e : ℤ} (h : IsExponent cs e) :
    Decimal.exponent? cs = some (e, []) := by
  cases h with
  | none => rfl
  | @marked mark sign digits negative hmark hsign hdigits hne =>
    obtain ⟨c, rest, rfl⟩ := List.exists_cons_of_ne_nil hne
    have hsplit := hsign.splitSign (Or.inl (hdigits c List.mem_cons_self)) rest
    exact exponent?_cons hmark hsplit hdigits hne

theorem unsigned?_of_isMantissa {mantissa whole part exponent : List Char} {e : ℤ}
    (hmantissa : IsMantissa mantissa whole part) (hexponent : IsExponent exponent e)
    (negative : Bool) : unsigned? negative (mantissa ++ exponent) =
      some ⟨negative, digitsValue (whole ++ part), e - part.length⟩ := by
  have hend := hexponent.exponent?
  cases hmantissa with
  | whole hwhole hne =>
    have hall := takeWhile_digits hwhole hexponent.noDigit
    have hrest := dropWhile_digits hwhole hexponent.noDigit
    unfold unsigned?
    rw [hall, hrest]
    dsimp only
    split
    next ds => exact absurd rfl (hexponent.not_point ds)
    next => simp [hne, hend]
  | pointed hwhole hne hpart =>
    rw [List.append_assoc, List.cons_append]
    have hpoint : NoDigit ('.' :: (part ++ exponent)) := noDigit_cons rfl _
    have hall := takeWhile_digits hwhole hpoint
    have hrest := dropWhile_digits hwhole hpoint
    unfold unsigned?
    rw [hall, hrest]
    simp [hne, hend, takeWhile_digits hpart hexponent.noDigit,
      dropWhile_digits hpart hexponent.noDigit]
  | part hpart hne =>
    have hall := takeWhile_digits hpart hexponent.noDigit
    have hrest := dropWhile_digits hpart hexponent.noDigit
    unfold unsigned?
    simp [hne, hend, hall, hrest]

def words : List String := ["inf", "infinity", "nan"]

/-- What is none of the words is read as a number. -/
theorem read?_of_not_mem_words {cs rest : List Char} {negative : Bool}
    (hsign : splitSign cs = (negative, rest))
    (hword : String.ofList (rest.map Char.toLower) ∉ words) :
    Numeral.read? cs = (unsigned? negative rest).map .finite := by
  unfold Numeral.read?
  rw [hsign]
  dsimp only
  split
  next heq => exact absurd (by rw [heq]; decide) hword
  next heq => exact absurd (by rw [heq]; decide) hword
  next heq => exact absurd (by rw [heq]; decide) hword
  next => rfl

theorem read?_of_splitSign {cs rest : List Char} {negative : Bool} {c : Char}
    (hsign : splitSign cs = (negative, c :: rest)) (hc : c.isDigit = true ∨ c = '.') :
    Numeral.read? cs = (unsigned? negative (c :: rest)).map .finite := by
  refine read?_of_not_mem_words hsign fun hword => ?_
  have hletters : words.all fun word => word.toList.all fun c => 97 ≤ c.toNat := by decide
  have hlower := List.all_iff_forall_prop.mp (List.all_eq_true.mp hletters _ hword) c.toLower
    (by rw [String.toList_ofList]; exact List.mem_cons_self)
  have hsmall : c.toNat < 58 := by
    rcases hc with hc | rfl
    · have := Text.toNat_of_isDigit hc
      omega
    · decide
  rw [Text.toLower_eq_self (Or.inl (by omega))] at hlower
  omega

theorem IsNumeral.float? {cs : List Char} {d : Scaled} (h : IsNumeral cs d) :
    Decimal.float? cs = some d.toFloat := by
  obtain ⟨hsign, hmantissa, hexponent⟩ := h
  have hunsigned := unsigned?_of_isMantissa hmantissa hexponent
  obtain ⟨c, rest, rfl, hc⟩ := hmantissa.exists_cons
  rw [Decimal.float?, List.cons_append, read?_of_splitSign (hsign.splitSign hc _) hc,
    ← List.cons_append, hunsigned]
  rfl

end Gleaner.Decimal
