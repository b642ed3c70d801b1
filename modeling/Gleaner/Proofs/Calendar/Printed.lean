import Gleaner.Proofs.Calendar.Format
import Gleaner.Proofs.Decimal.Digits
import Mathlib.Tactic.IntervalCases

/-!
Printing times by a format. Numbers are padded with zeros, so that each item of a format reads
exactly what it prints (`Item.read?_print`), and so does a format as a whole
(`Format.read?_print`).
-/
namespace Gleaner.Calendar

/-! ### Padded numbers -/

/-- The last digits of a number, zeros in front where it has fewer. -/
def padded : (width : ℕ) → ℕ → List Char
  | 0, _ => []
  | width + 1, n => padded width (n / 10) ++ [Nat.digitChar (n % 10)]

theorem digitChar_lt_ten : ∀ d < 10,
    (Nat.digitChar d).isDigit = true ∧ (Nat.digitChar d).toNat - '0'.toNat = d := by
  decide

theorem length_padded (width n : ℕ) : (padded width n).length = width := by
  induction width generalizing n with
  | zero => rfl
  | succ width ih => rw [padded, List.length_append, ih, List.length_singleton]

theorem isDigit_padded {width n : ℕ} : ∀ c ∈ padded width n, c.isDigit = true := by
  induction width generalizing n with
  | zero => rintro c ⟨⟩
  | succ width ih =>
    intro c hc
    rcases List.mem_append.mp hc with hc | hc
    · exact ih c hc
    · rw [List.mem_singleton.mp hc]
      exact (digitChar_lt_ten (n % 10) (Nat.mod_lt n (by omega))).1

theorem digitsValue_padded {width n : ℕ} (h : n < 10 ^ width) :
    Decimal.digitsValue (padded width n) = n := by
  induction width generalizing n with
  | zero =>
    rw [pow_zero] at h
    rw [padded, Nat.lt_one_iff.mp h]
    rfl
  | succ width ih =>
    have hfront : n / 10 < 10 ^ width := Nat.div_lt_of_lt_mul (by rwa [pow_succ'] at h)
    have hdigit := (digitChar_lt_ten (n % 10) (Nat.mod_lt n (by omega))).2
    have hvalue := ih hfront
    unfold Decimal.digitsValue at hvalue ⊢
    rw [padded, List.foldl_append, hvalue, List.foldl_cons, List.foldl_nil, hdigit]
    omega

theorem exists_cons_padded {width : ℕ} (hwidth : 0 < width) (n : ℕ) :
    ∃ c tail, padded width n = c :: tail ∧ c.isDigit = true := by
  have hne : padded width n ≠ [] := List.ne_nil_of_length_pos (by rwa [length_padded])
  obtain ⟨c, tail, hcons⟩ := List.exists_cons_of_ne_nil hne
  exact ⟨c, tail, hcons, isDigit_padded c (by rw [hcons]; exact List.mem_cons_self)⟩

/-- No more digits are read than were printed, if no more may be read. -/
theorem digits?_padded {least most n : ℕ} (hleast : least ≤ most) (hn : n < 10 ^ most)
    (rest : List Char) : digits? least most (padded most n ++ rest) = some (n, rest) := by
  have hlength := length_padded most n
  have hread : digits? least most (padded most n ++ rest) =
      some (Decimal.digitsValue (padded most n), rest) :=
    digits?_append isDigit_padded (by omega) hlength.le (Or.inl hlength)
  rwa [digitsValue_padded hn] at hread

theorem field?_padded {low high n : ℕ} (hlow : low ≤ n) (hhigh : n ≤ high) (hsmall : high < 100)
    (rest : List Char) : field? low high (padded 2 n ++ rest) = some (n, rest) := by
  have hread : digits? 1 2 (padded 2 n ++ rest) = some (n, rest) :=
    digits?_padded (by omega) (by omega) rest
  unfold field?
  rw [trimStart_of_digits? hread (by omega), hread]
  exact if_pos ⟨hlow, hhigh⟩

theorem year?_padded {n : ℕ} (hn : n < 10000) (rest : List Char) :
    year? (padded 4 n ++ rest) = some ((n : ℤ), rest) := by
  have hread : digits? 1 4 (padded 4 n ++ rest) = some (n, rest) :=
    digits?_padded (by omega) (by omega) rest
  have hyear : isYear n = true := by
    simp only [isYear, Bool.and_eq_true, decide_eq_true_eq]
    omega
  obtain ⟨c, tail, hcons, hc⟩ := exists_cons_of_digits? hread (by omega)
  unfold year?
  rw [trimStart_of_digits? hread (by omega), hcons]
  split
  next heq =>
    cases heq
    exact absurd hc (by decide)
  next heq =>
    cases heq
    exact absurd hc (by decide)
  next =>
    rw [← hcons, hread]
    simp [hyear]

theorem nanos?_padded {places n : ℕ} (hplaces : 0 < places) (hnine : places ≤ 9)
    (hn : n < 10 ^ places) : nanos? (padded places n) = some (n * 10 ^ (9 - places), []) := by
  have hdigits : (padded places n).takeWhile Char.isDigit = padded places n :=
    List.takeWhile_eq_self_iff.mpr fun c hc => isDigit_padded c hc
  have hlength := length_padded places n
  have hne : ¬(padded places n).isEmpty = true := by
    obtain ⟨c, tail, hcons, -⟩ := exists_cons_padded hplaces n
    simp [hcons]
  unfold nanos?
  dsimp only
  rw [hdigits, if_neg hne, List.take_of_length_le (by omega), hlength, digitsValue_padded hn,
    List.drop_of_length_le (by omega)]
  rfl

/-! ### Items -/

def capital : List Char → List Char
  | [] => []
  | c :: cs => c.toUpper :: cs

/-- An item as it is printed, with so many places of the fraction. The zones and the other ways to
write a year, a month or an hour print nothing. -/
def Item.print (places : ℕ) (t : LocalTime) : Item → List Char
  | .literal c => [c]
  | .space => [' ']
  | .year => padded 4 t.date.year.toNat
  | .month => padded 2 t.date.month
  | .day => padded 2 t.date.day
  | .hour => padded 2 (t.second / 3600)
  | .minute => padded 2 (t.second / 60 % 60)
  | .second => padded 2 (t.second % 60)
  | .fraction => if places = 0 then [] else '.' :: padded places (t.nanos / 10 ^ (9 - places))
  | .monthAbbreviation => capital ((monthStarts[t.date.month - 1]?).getD [])
  | .shortYear | .hour12 | .monthName | .half | .zoneName | .zone => []

def Format.print (places : ℕ) (t : LocalTime) (f : Format) : List Char :=
  f.flatMap (Item.print places t)

/-- What reading an item learns from a time that it printed. -/
def Item.put (places : ℕ) (t : LocalTime) (p : Parts) : Item → Parts
  | .year => { p with year := t.date.year }
  | .month | .monthAbbreviation => { p with month := t.date.month }
  | .day => { p with day := t.date.day }
  | .hour => { p with hour := some (t.second / 3600) }
  | .minute => { p with minute := some (t.second / 60 % 60) }
  | .second => { p with second := some (t.second % 60) }
  | .fraction =>
    if places = 0 then p
    else { p with nanos := some (t.nanos / 10 ^ (9 - places) * 10 ^ (9 - places)) }
  | _ => p

def Format.put (places : ℕ) (t : LocalTime) (p : Parts) (f : Format) : Parts :=
  f.foldl (Item.put places t) p

/-- A time of a year with four digits, without an inserted second. -/
structure LocalTime.Printable (t : LocalTime) : Prop where
  date : Date.ofParts? t.date.year t.date.month t.date.day = some t.date
  yearPositive : 0 ≤ t.date.year
  yearShort : t.date.year ≤ 9999
  second : t.second < 86400
  nanos : t.nanos < 1000000000

/-- The items that read no further than they print, whatever comes behind them. -/
def Item.isWord : Item → Bool
  | .year | .month | .day | .hour | .minute | .second | .monthAbbreviation => true
  | _ => false

/-- Formats in which every space stands before a word, and a fraction at the end. -/
inductive Format.Legible : Format → Prop
  | nil : Legible []
  | fraction : Legible [.fraction]
  | literal {c : Char} {f : Format} (hc : Text.isBlank c = false) (hf : Legible f) :
    Legible (.literal c :: f)
  | space {i : Item} {f : Format} (hi : i.isWord = true) (hf : Legible (i :: f)) :
    Legible (.space :: i :: f)
  | word {i : Item} {f : Format} (hi : i.isWord = true) (hf : Legible f) : Legible (i :: f)

theorem Format.read?_cons {i : Item} {f : Format} {p q : Parts} {cs rest : List Char}
    (h : i.read? p cs = some (q, rest)) : Format.read? (i :: f) p cs = f.read? q rest := by
  simp only [read?, h]

section

variable {places : ℕ} {t : LocalTime} (ht : t.Printable)

include ht

theorem LocalTime.Printable.month : 1 ≤ t.date.month ∧ t.date.month ≤ 12 := by
  have hdate := ht.date
  unfold Date.ofParts? at hdate
  split at hdate
  next hparts =>
    obtain ⟨-, -, hday, hlength⟩ := hparts
    unfold monthDays at hlength
    split at hlength <;> omega
  next => cases hdate

theorem LocalTime.Printable.day : 1 ≤ t.date.day ∧ t.date.day ≤ 31 := by
  have hdate := ht.date
  unfold Date.ofParts? at hdate
  split at hdate
  next hparts =>
    obtain ⟨-, -, hday, hlength⟩ := hparts
    have hmonth : monthDays t.date.year t.date.month ≤ 31 := by
      unfold monthDays
      split <;> (try split) <;> omega
    omega
  next => cases hdate

theorem Item.read?_print {i : Item} (hi : i.isWord = true) (p : Parts) (rest : List Char) :
    i.read? p (i.print places t ++ rest) = some (i.put places t p, rest) := by
  have hmonth := ht.month
  have hday := ht.day
  have hsecond := ht.second
  cases i with
  | year =>
    have hpositive := ht.yearPositive
    have hshort := ht.yearShort
    have hfour : t.date.year.toNat < 10000 := by omega
    have hread := year?_padded hfour rest
    rw [Int.toNat_of_nonneg hpositive] at hread
    simp only [read?, print, put, hread, Option.map_some]
  | month =>
    have hread := field?_padded hmonth.1 hmonth.2 (by omega) rest
    simp only [read?, print, put, hread, Option.map_some]
  | day =>
    have hread := field?_padded hday.1 hday.2 (by omega) rest
    simp only [read?, print, put, hread, Option.map_some]
  | hour =>
    have hread : field? 0 23 (padded 2 (t.second / 3600) ++ rest) = some (t.second / 3600, rest) :=
      field?_padded (by omega) (by omega) (by omega) rest
    simp only [read?, print, put, hread, Option.map_some]
  | minute =>
    have hread : field? 0 59 (padded 2 (t.second / 60 % 60) ++ rest) =
        some (t.second / 60 % 60, rest) :=
      field?_padded (by omega) (by omega) (by omega) rest
    simp only [read?, print, put, hread, Option.map_some]
  | second =>
    have hread : field? 0 60 (padded 2 (t.second % 60) ++ rest) = some (t.second % 60, rest) :=
      field?_padded (by omega) (by omega) (by omega) rest
    simp only [read?, print, put, hread, Option.map_some]
  | monthAbbreviation =>
    have hread : monthAbbreviation? (capital ((monthStarts[t.date.month - 1]?).getD []) ++ rest) =
        some (t.date.month, rest) := by
      obtain ⟨hlow, hhigh⟩ := hmonth
      interval_cases t.date.month <;> rfl
    simp only [read?, print, put, hread, Option.map_some]
  | _ => cases hi

/-- A word prints no blank. -/
theorem Item.print_ends {i : Item} (hi : i.isWord = true) :
    i.print places t ≠ [] ∧ ∀ c ∈ i.print places t, Text.isBlank c = false := by
  have hpadded : ∀ {width : ℕ} (n : ℕ), 0 < width →
      padded width n ≠ [] ∧ ∀ c ∈ padded width n, Text.isBlank c = false := by
    intro width n hwidth
    refine ⟨List.ne_nil_of_length_pos (by rwa [length_padded]), fun c hc => ?_⟩
    exact Text.isBlank_of_isDigit (isDigit_padded c hc)
  cases i with
  | year => exact hpadded _ (by omega)
  | month | day | hour | minute | second => exact hpadded _ (by omega)
  | monthAbbreviation =>
    have hall : ∀ m < 12, capital ((monthStarts[m]?).getD []) ≠ [] ∧
        ((capital ((monthStarts[m]?).getD [])).all fun c => !Text.isBlank c) = true := by decide
    have hmonth := ht.month
    obtain ⟨hne, hshown⟩ := hall (t.date.month - 1) (by omega)
    exact ⟨hne, fun c hc => by simpa using List.all_eq_true.mp hshown c hc⟩
  | _ => cases hi

theorem Item.read?_space {i : Item} (hi : i.isWord = true) (p : Parts) (rest : List Char) :
    Item.space.read? p (' ' :: (i.print places t ++ rest)) =
      some (p, i.print places t ++ rest) := by
  obtain ⟨hne, hshown⟩ : i.print places t ≠ [] ∧ ∀ c ∈ i.print places t, Text.isBlank c = false :=
    i.print_ends ht hi
  obtain ⟨c, tail, hcons⟩ := List.exists_cons_of_ne_nil hne
  have hc : Text.isBlank c = false := hshown c (by rw [hcons]; exact List.mem_cons_self)
  have htrim : Text.trimStart (' ' :: (c :: tail ++ rest)) = c :: tail ++ rest :=
    (List.dropWhile_cons_of_pos rfl).trans (Text.trimStart_cons hc _)
  rw [hcons]
  simp only [read?, htrim]

theorem Item.read?_fraction (hplaces : places ≤ 9) (p : Parts) :
    Item.fraction.read? p (Item.fraction.print places t) =
      some (Item.fraction.put places t p, []) := by
  by_cases hzero : places = 0
  · simp only [print, put, hzero, if_true]
    rfl
  · have hnanos : t.nanos / 10 ^ (9 - places) < 10 ^ places := by
      refine Nat.div_lt_of_lt_mul ?_
      rw [← pow_add, Nat.sub_add_cancel hplaces]
      exact ht.nanos
    have hread := nanos?_padded (Nat.pos_of_ne_zero hzero) hplaces hnanos
    simp only [print, put, hzero, if_false, read?, hread, Option.map_some]

/-! ### Formats -/

theorem Format.read?_print (hplaces : places ≤ 9) {f : Format} (hf : f.Legible) (p : Parts) :
    f.read? p (f.print places t) = some (f.put places t p, []) := by
  induction hf generalizing p with
  | nil => rfl
  | fraction =>
    rw [print, List.flatMap_singleton, read?_cons (Item.read?_fraction ht hplaces p)]
    rfl
  | @literal c f hc hf ih =>
    have hread : Item.read? (.literal c) p (c :: f.print places t) = some (p, f.print places t) :=
      if_pos rfl
    exact (read?_cons hread).trans (ih p)
  | @space i f hi hf ih =>
    exact (read?_cons (Item.read?_space ht hi p (f.print places t))).trans (ih p)
  | @word i f hi hf ih =>
    exact (read?_cons (Item.read?_print ht hi p (f.print places t))).trans (ih _)

/-- What is printed does not end with a blank. -/
theorem Format.Legible.getLast? {f : Format} (hf : f.Legible) :
    ∀ c ∈ (f.print places t).getLast?, Text.isBlank c = false := by
  induction hf with
  | nil => rintro c ⟨⟩
  | fraction =>
    intro c hc
    have hmem := List.mem_of_getLast? hc
    rw [print, List.flatMap_singleton, Item.print] at hmem
    split at hmem
    · cases hmem
    · rcases List.mem_cons.mp hmem with rfl | hmem
      · rfl
      · exact Text.isBlank_of_isDigit (isDigit_padded c hmem)
  | @literal c f hc hf ih =>
    have hone : ∀ d ∈ [c].getLast?, Text.isBlank d = false := by
      rintro d ⟨⟩
      exact hc
    exact Text.getLast?_append hone ih
  | @space i f hi hf ih =>
    have hne : i.print places t ≠ [] := (i.print_ends ht hi).1
    have hprint : Format.print places t (i :: f) ≠ [] :=
      List.append_ne_nil_of_left_ne_nil hne (Format.print places t f)
    intro c hc
    change c ∈ ([' '] ++ Format.print places t (i :: f)).getLast? at hc
    rw [List.getLast?_append_of_ne_nil _ hprint] at hc
    exact ih c hc
  | @word i f hi hf ih =>
    exact Text.getLast?_append
      (fun c hc => (i.print_ends ht hi).2 c (List.mem_of_getLast? hc)) ih

/-- What starts with a word is printed without blanks around it. -/
theorem Format.trim_print {i : Item} {f : Format} (hi : i.isWord = true)
    (hf : Format.Legible (i :: f)) :
    Format.print places t (i :: f) ≠ [] ∧
      Text.trim (Format.print places t (i :: f)) = Format.print places t (i :: f) := by
  obtain ⟨hne, hshown⟩ : i.print places t ≠ [] ∧ ∀ c ∈ i.print places t, Text.isBlank c = false :=
    i.print_ends ht hi
  refine ⟨List.append_ne_nil_of_left_ne_nil hne (Format.print places t f), ?_⟩
  refine Text.trim_eq_self_iff.mpr ⟨fun c hc => ?_, hf.getLast? ht⟩
  change c ∈ (i.print places t ++ Format.print places t f).head? at hc
  rw [List.head?_append_of_ne_nil _ hne] at hc
  exact hshown c (List.mem_of_mem_head? hc)

theorem Format.parse?_print (hplaces : places ≤ 9) {f : Format} (hf : f.Legible) :
    f.parse? (f.print places t) = some (f.put places t {}) := by
  rw [parse?, read?_print ht hplaces hf]

theorem Item.Leaves.word {i : Item} (hi : i.isWord = true) {rest left : List Char}
    (h : i.Leaves (i.print places t ++ rest) left) : left = rest := by
  obtain ⟨p, q, h⟩ := h
  rw [Item.read?_print ht hi] at h
  exact (Prod.mk.inj (Option.some.inj h)).2.symm

theorem Item.Leaves.spaceWord {i : Item} (hi : i.isWord = true) {rest left : List Char}
    (h : Item.Leaves .space (' ' :: (i.print places t ++ rest)) left) :
    left = i.print places t ++ rest := by
  obtain ⟨p, q, h⟩ := h
  rw [Item.read?_space ht hi] at h
  exact (Prod.mk.inj (Option.some.inj h)).2.symm

/-! ### What is shown -/

/-- The time without what a format does not show. -/
def Format.shown (places : ℕ) (t : LocalTime) (f : Format) : LocalTime :=
  ⟨t.date,
    if .second ∈ f then t.second else if .minute ∈ f then t.second / 60 * 60 else 0,
    if .fraction ∈ f then t.nanos / 10 ^ (9 - places) * 10 ^ (9 - places) else 0⟩

theorem Parts.date?_eq {p : Parts} (hyear : p.year = some t.date.year)
    (hmonth : p.month = some t.date.month) (hday : p.day = some t.date.day)
    (hweekday : p.weekday = none) : p.date? = some t.date := by
  have hfull : p.fullYear? = some t.date.year := by
    unfold fullYear?
    rw [hyear]
  unfold date?
  rw [hfull, hmonth, hday]
  dsimp only
  rw [ht.date, hweekday]
  rfl

omit ht in
theorem Parts.time?_eq {p : Parts} (hhour : p.hour = some (t.second / 3600))
    (hminute : p.minute = some (t.second / 60 % 60)) (hsecond : p.second.getD 0 < 60) :
    p.time? = some (t.second / 60 * 60 + p.second.getD 0, p.nanos.getD 0) := by
  have hfull : p.hour? = some (t.second / 3600) := by
    unfold hour?
    rw [hhour]
  unfold time?
  rw [hfull, hminute]
  dsimp only
  rw [if_neg (by omega)]
  have hsum : t.second / 3600 * 3600 + t.second / 60 % 60 * 60 = t.second / 60 * 60 := by omega
  rw [hsum]

end

end Gleaner.Calendar
