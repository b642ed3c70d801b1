import Gleaner.Proofs.Decimal.Plain
import Gleaner.Units.Scan

/-!
Where a run of characters ends in a text, numbers with a fraction in digits of any script, and
numbers with commas. Behind a text without digits a number is the first thing that is found
(`first?_append`, `grouped?_of_before`), and it is read as far as it goes (`grouped?_append`).
-/
namespace Gleaner.Scan

open Decimal

theorem spanning_append {p : Char → Bool} {run rest : List Char} (hrun : ∀ c ∈ run, p c = true)
    (hrest : ∀ c ∈ rest.head?, p c = false) : spanning p (run ++ rest) = (run, rest) := by
  unfold spanning
  rw [List.takeWhile_append_of_pos hrun, List.dropWhile_append_of_pos hrun]
  cases rest with
  | nil => simp
  | cons c rest => simp [hrest c rfl]

theorem dropWhile_append {p : Char → Bool} {run rest : List Char} (hrun : ∀ c ∈ run, p c = true)
    (hrest : ∀ c ∈ rest.head?, p c = false) : (run ++ rest).dropWhile p = rest :=
  congrArg Prod.snd (spanning_append hrun hrest)

theorem spanning_cons_of_neg {p : Char → Bool} {c : Char} (h : p c = false) (cs : List Char) :
    spanning p (c :: cs) = ([], c :: cs) := by
  simp [spanning, h]

/-- A fraction is read up to what is no digit; where there is none, a point alone is not taken. -/
theorem fraction_append {part rest : List Char}
    (hpart : ∀ c ∈ part, Text.isDecimalDigit c = true)
    (hrest : ∀ c ∈ rest.head?, Text.isDecimalDigit c = false)
    (hpoint : part = [] → ∀ c cs, rest = '.' :: c :: cs → Text.isDecimalDigit c = false) :
    fraction (point part ++ rest) = (point part, rest) := by
  unfold point
  split
  next hnil =>
    rw [List.nil_append]
    unfold fraction
    split
    next ds =>
      cases ds with
      | nil => rfl
      | cons d ds => rw [spanning_cons_of_neg (hpoint hnil d ds rfl)]; rfl
    next => rfl
  next hne =>
    have hspan := spanning_append hpart hrest
    simp only [List.cons_append, fraction, hspan]
    exact if_neg (by simpa using hne)

theorem fraction_point {part rest : List Char}
    (hpart : ∀ c ∈ part, Text.isDecimalDigit c = true)
    (hrest : ∀ c ∈ rest.head?, Text.isDecimalDigit c = false ∧ c ≠ '.') :
    fraction (point part ++ rest) = (point part, rest) := by
  refine fraction_append hpart (fun c hc => (hrest c hc).1) ?_
  rintro - c cs rfl
  exact absurd rfl (hrest '.' rfl).2

theorem exists_of_fraction {cs point' rest : List Char} (h : fraction cs = (point', rest)) :
    ∃ part, point' = point part ∧ cs = point part ++ rest ∧
      ∀ c ∈ part, Text.isDecimalDigit c = true := by
  unfold fraction spanning at h
  split at h
  next ds =>
    dsimp only at h
    split at h
    next =>
      cases h
      exact ⟨[], rfl, rfl, by rintro c ⟨⟩⟩
    next hne =>
      cases h
      refine ⟨ds.takeWhile Text.isDecimalDigit, ?_, ?_, fun c hc =>
        List.all_eq_true.mp List.all_takeWhile c hc⟩
      · rw [point, if_neg (by simpa using hne)]
      · rw [point, if_neg (by simpa using hne), List.cons_append, List.takeWhile_append_dropWhile]
  next =>
    cases h
    exact ⟨[], rfl, rfl, by rintro c ⟨⟩⟩

/-! ### The first place -/

section First

variable {α : Type} {read? : List Char → Option α} {before rest cs : List Char} {a : α}

theorem first?_append (h : ∀ cs, cs ≠ [] → cs <:+ before → read? (cs ++ rest) = none) :
    first? read? (before ++ rest) = first? read? rest := by
  induction before with
  | nil => rfl
  | cons c before ih =>
    have hnone := h (c :: before) (List.cons_ne_nil _ _) List.suffix_rfl
    rw [List.cons_append] at hnone ⊢
    rw [first?, hnone]
    exact ih fun cs hne hcs => h cs hne (hcs.trans (List.suffix_cons c before))

theorem first?_of_some (h : read? cs = some a) : first? read? cs = some a := by
  cases cs with
  | nil => exact h
  | cons c cs => rw [first?, h]

theorem exists_of_first? (h : first? read? cs = some a) :
    ∃ before rest, cs = before ++ rest ∧ read? rest = some a := by
  induction cs with
  | nil => exact ⟨[], [], rfl, h⟩
  | cons c cs ih =>
    unfold first? at h
    split at h
    next a' ha =>
      cases h
      exact ⟨[], c :: cs, rfl, ha⟩
    next =>
      obtain ⟨before, rest, rfl, hrest⟩ := ih h
      exact ⟨c :: before, rest, rfl, hrest⟩

end First

/-! ### Numbers with commas -/

/-- A number as printed in running text: digits with commas among or behind them and perhaps a
fraction, or a fraction alone. -/
structure Grouped (digit : Char → Bool) where
  whole : List Char
  part : List Char
  head_digit : ∀ c ∈ whole.head?, digit c = true
  whole_digits : ∀ c ∈ whole, digit c = true ∨ c = ','
  part_digits : ∀ c ∈ part, digit c = true
  nonempty : whole ≠ [] ∨ part ≠ []

namespace Grouped

variable {digit : Char → Bool}

def text (n : Grouped digit) : List Char := n.whole ++ point n.part

/-- The number does not go on in the rest of the text. -/
def Ends (n : Grouped digit) (rest : List Char) : Prop :=
  (∀ c ∈ rest.head?, Text.isDecimalDigit c = false) ∧
    (n.part = [] → (∀ c ∈ rest.head?, c ≠ ',') ∧
      ∀ c cs, rest = '.' :: c :: cs → Text.isDecimalDigit c = false)

theorem mem_text {n : Grouped digit} {c : Char} (hc : c ∈ n.text) :
    digit c = true ∨ c = ',' ∨ c = '.' := by
  rcases List.mem_append.mp hc with hwhole | hpart
  · exact (n.whole_digits c hwhole).imp_right Or.inl
  · rcases mem_point hpart with rfl | hpart
    · exact Or.inr (Or.inr rfl)
    · exact Or.inl (n.part_digits c hpart)

theorem exists_text (n : Grouped digit) :
    ∃ c cs, n.text = c :: cs ∧ (digit c = true ∨ c = '.') := by
  unfold text
  cases hwhole : n.whole with
  | cons c whole => exact ⟨c, _, rfl, Or.inl (n.head_digit c (by rw [hwhole]; rfl))⟩
  | nil =>
    have hpart : n.part ≠ [] := n.nonempty.resolve_left (not_not_intro hwhole)
    rw [point, if_neg hpart]
    exact ⟨'.', n.part, rfl, Or.inr rfl⟩

end Grouped

theorem not_isDecimalDigit_point : Text.isDecimalDigit '.' = false := by decide

theorem grouped?_append {digit : Char → Bool}
    (hdigit : ∀ c, digit c = true → Text.isDecimalDigit c = true) (n : Grouped digit)
    {rest : List Char} (h : n.Ends rest) : grouped? (n.text ++ rest) = some (n.text, rest) := by
  have hpart := fraction_append (fun c hc => hdigit c (n.part_digits c hc)) h.1 fun hnil =>
    (h.2 hnil).2
  rw [Grouped.text, List.append_assoc]
  cases hwhole : n.whole with
  | nil =>
    have hne : n.part ≠ [] := n.nonempty.resolve_left (not_not_intro hwhole)
    rw [point, if_neg hne] at hpart ⊢
    rw [List.nil_append, List.cons_append] at *
    unfold grouped?
    dsimp only
    rw [if_neg (by rw [not_isDecimalDigit_point]; decide), hpart]
    rfl
  | cons c more =>
    have hc : Text.isDecimalDigit c = true := hdigit c (n.head_digit c (by rw [hwhole]; rfl))
    have hmore : spanning (fun d => Text.isDecimalDigit d || d = ',')
        (more ++ (point n.part ++ rest)) = (more, point n.part ++ rest) := by
      refine spanning_append (fun d hd => ?_) (fun d hd => ?_)
      · rcases n.whole_digits d (hwhole ▸ List.mem_cons_of_mem c hd) with hd | rfl
        · rw [hdigit d hd, Bool.true_or]
        · exact Bool.or_true _
      · by_cases hnil : n.part = []
        · rw [point, if_pos hnil, List.nil_append] at hd
          rw [h.1 d hd, Bool.false_or]
          exact decide_eq_false ((h.2 hnil).1 d hd)
        · rw [point, if_neg hnil] at hd
          cases hd
          rw [not_isDecimalDigit_point]
          rfl
    rw [List.cons_append, grouped?, if_pos hc, hmore]
    dsimp only
    rw [hpart]

theorem grouped?_eq_none {c : Char} {rest : List Char} (hc : Text.isDecimalDigit c = false)
    (hpoint : c = '.' → ∀ d ∈ rest.head?, Text.isDecimalDigit d = false) :
    grouped? (c :: rest) = none := by
  have hfraction : fraction (c :: rest) = ([], c :: rest) := by
    refine fraction_append (List.forall_mem_nil _) ?_ ?_
    · rintro d ⟨⟩
      exact hc
    · rintro - d ds heq
      cases heq
      exact hpoint rfl d rfl
  rw [grouped?, if_neg (by rw [hc]; decide), hfraction]
  rfl

/-- In front of a number nothing can be read where no digit stands and no point before it. -/
theorem grouped?_of_before {before rest cs : List Char}
    (hdigits : ∀ c ∈ before, Text.isDecimalDigit c = false) (hlast : before.getLast? ≠ some '.')
    (hne : cs ≠ []) (hcs : cs <:+ before) : grouped? (cs ++ rest) = none := by
  cases cs with
  | nil => exact absurd rfl hne
  | cons c cs =>
    refine grouped?_eq_none (hdigits c (hcs.subset List.mem_cons_self)) ?_
    rintro rfl d hd
    cases cs with
    | nil =>
      obtain ⟨front, rfl⟩ := hcs
      exact absurd List.getLast?_concat hlast
    | cons e cs =>
      cases hd
      exact hdigits d (hcs.subset (List.mem_cons_of_mem _ List.mem_cons_self))

theorem exists_of_grouped? {cs token rest : List Char} (h : grouped? cs = some (token, rest)) :
    ∃ n : Grouped Text.isDecimalDigit, token = n.text ∧ cs = token ++ rest := by
  unfold grouped? spanning at h
  split at h
  next c cs =>
    dsimp only at h
    split at h
    next hc =>
      obtain ⟨part, hpart, hcs, hdigits⟩ := exists_of_fraction (Prod.eta (fraction
        (cs.dropWhile fun d => Text.isDecimalDigit d || d = ','))).symm
      cases h
      refine ⟨⟨c :: cs.takeWhile fun d => Text.isDecimalDigit d || d = ',', part, ?_, ?_, hdigits,
        Or.inl (List.cons_ne_nil _ _)⟩, by rw [hpart]; rfl, ?_⟩
      · rintro d ⟨⟩
        exact hc
      · refine List.forall_mem_cons.mpr ⟨Or.inl hc, fun d hd => ?_⟩
        have htaken := List.all_eq_true.mp List.all_takeWhile d hd
        simpa using htaken
      · rw [hpart, List.cons_append, List.cons_append, List.append_assoc, ← hcs,
          List.takeWhile_append_dropWhile]
    next =>
      obtain ⟨part, hpart, hcs, hdigits⟩ := exists_of_fraction (Prod.eta (fraction (c :: cs))).symm
      split at h
      next => cases h
      next hne =>
        cases h
        rw [hpart] at hne ⊢
        refine ⟨⟨[], part, by rintro d ⟨⟩, List.forall_mem_nil _, hdigits, Or.inr ?_⟩, rfl, hcs⟩
        rintro rfl
        exact hne rfl
  next => cases h

/-! ### Numbers without their commas -/

theorem withoutCommas_eq_self {cs : List Char} (h : ∀ c ∈ cs, c ≠ ',') : withoutCommas cs = cs :=
  List.filter_eq_self.mpr fun c hc => decide_eq_true (h c hc)

theorem withoutCommas_append (cs ds : List Char) :
    withoutCommas (cs ++ ds) = withoutCommas cs ++ withoutCommas ds :=
  List.filter_append cs ds

namespace Grouped

theorem ne_comma_of_isDigit {c : Char} (h : c.isDigit = true) : c ≠ ',' := by
  rintro rfl
  revert h
  decide

/-- The number without its commas. -/
def plain (n : Grouped Char.isDigit) : Plain where
  whole := withoutCommas n.whole
  part := n.part
  whole_digits c hc := by
    obtain ⟨hmem, hcomma⟩ := List.mem_filter.mp hc
    exact (n.whole_digits c hmem).resolve_right (of_decide_eq_true hcomma)
  part_digits := n.part_digits
  nonempty := by
    refine n.nonempty.imp_left fun hne => ?_
    obtain ⟨c, whole, hwhole⟩ := List.exists_cons_of_ne_nil hne
    have hc : c.isDigit = true := n.head_digit c (by rw [hwhole]; rfl)
    refine List.ne_nil_of_mem (List.mem_filter.mpr ⟨hwhole ▸ List.mem_cons_self, ?_⟩)
    exact decide_eq_true (ne_comma_of_isDigit hc)

theorem withoutCommas_text (n : Grouped Char.isDigit) : withoutCommas n.text = n.plain.text := by
  have hpart : withoutCommas (point n.part) = point n.part := by
    refine withoutCommas_eq_self fun c hc => ?_
    rcases mem_point hc with rfl | hc
    · decide
    · exact ne_comma_of_isDigit (n.part_digits c hc)
  rw [text, withoutCommas_append, hpart]
  rfl

theorem isBlank_of_mem_text {n : Grouped Char.isDigit} {c : Char} (hc : c ∈ n.text) :
    Text.isBlank c = false := by
  rcases mem_text hc with hc | rfl | rfl
  · exact Text.isBlank_of_isDigit hc
  · rfl
  · rfl

end Grouped

end Gleaner.Scan
