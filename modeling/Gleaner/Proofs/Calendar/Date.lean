import Gleaner.Calendar.Date
import Mathlib.Algebra.Order.Ring.Int
import Mathlib.Tactic.IntervalCases

/-!
Dates and their numbers of days. A number of days is that of its date (`Date.toDays_ofDays`), months
follow one another without a gap (`monthStart_succ`), and so going back by months never leads to a
later date (`addMonths?_le`).
-/
namespace Gleaner.Calendar

namespace Date

/-- The days in front of a year that starts in March. -/
def daysBefore (year : ℤ) : ℤ := year * 365 + year / 4 - year / 100 + year / 400

/-- The year that starts in March. -/
def marchYear (d : Date) : ℤ := if d.month ≤ 2 then d.year - 1 else d.year

theorem toDays_eq (d : Date) : d.toDays =
    daysBefore d.marchYear + ((153 * (((d.month + 9 : ℕ) : ℤ) % 12) + 2) / 5 + d.day - 1) -
      719468 := by
  unfold toDays daysBefore marchYear
  simp only [Int.fdiv_eq_ediv_of_nonneg _ (by decide : (0 : ℤ) ≤ 400), Nat.cast_add]
  generalize (if d.month ≤ 2 then d.year - 1 else d.year) = y
  push_cast
  omega

theorem daysBefore_era {y : ℤ} (hlow : 0 ≤ y) (hhigh : y ≤ 399) (era : ℤ) :
    daysBefore (y + era * 400) = era * 146097 + (365 * y + y / 4 - y / 100) := by
  unfold daysBefore
  omega

/-- The day of an era, of four hundred years, tells its year and the day of that year. -/
theorem yearOfEra_bounds {e : ℤ} (hlow : 0 ≤ e) (hhigh : e < 146097) :
    0 ≤ (e - e / 1460 + e / 36524 - e / 146096) / 365 ∧
      (e - e / 1460 + e / 36524 - e / 146096) / 365 ≤ 399 := by
  omega

theorem dayOfYear_bounds {e y : ℤ} (hlow : 0 ≤ e) (hhigh : e < 146097)
    (hy : y = (e - e / 1460 + e / 36524 - e / 146096) / 365) :
    0 ≤ e - (365 * y + y / 4 - y / 100) ∧ e - (365 * y + y / 4 - y / 100) ≤ 365 := by
  obtain ⟨leaps, hleaps⟩ : ∃ leaps, leaps = e / 1460 := ⟨_, rfl⟩
  obtain ⟨centuries, hcenturies⟩ : ∃ centuries, centuries = e / 36524 := ⟨_, rfl⟩
  obtain ⟨last, hlast⟩ : ∃ last, last = e / 146096 := ⟨_, rfl⟩
  obtain ⟨fours, hfours⟩ : ∃ fours, fours = y / 4 := ⟨_, rfl⟩
  obtain ⟨hundreds, hhundreds⟩ : ∃ hundreds, hundreds = y / 100 := ⟨_, rfl⟩
  rw [← hleaps, ← hcenturies, ← hlast] at hy
  rw [← hfours, ← hhundreds]
  -- In each century the leap days that were passed over are known.
  have hcentury : centuries = 0 ∨ centuries = 1 ∨ centuries = 2 ∨ centuries = 3 ∨
      centuries = 4 := by omega
  have hhundred : hundreds = 0 ∨ hundreds = 1 ∨ hundreds = 2 ∨ hundreds = 3 := by omega
  have hnear : leaps - fours = 0 ∨ leaps - fours = 1 ∨ leaps - fours = -1 := by omega
  constructor <;>
  · rcases hcentury with rfl | rfl | rfl | rfl | rfl <;>
      rcases hhundred with rfl | rfl | rfl | rfl <;> omega

/-- What the parts of a date are that is made from days. -/
theorem ofDays_parts (n : ℤ) : ∃ era y doy fromMarch : ℤ,
    n + 719468 = era * 146097 + (365 * y + y / 4 - y / 100 + doy) ∧ 0 ≤ y ∧ y ≤ 399 ∧
      0 ≤ doy ∧ doy ≤ 365 ∧ fromMarch = (5 * doy + 2) / 153 ∧
      ofDays n = ⟨if fromMarch < 10 then y + era * 400 else y + era * 400 + 1,
        (if fromMarch < 10 then fromMarch + 3 else fromMarch - 9).toNat,
        (doy - (153 * fromMarch + 2) / 5 + 1).toNat⟩ := by
  obtain ⟨era, hera⟩ : ∃ era, era = (n + 719468) / 146097 := ⟨_, rfl⟩
  obtain ⟨e, he⟩ : ∃ e, e = n + 719468 - era * 146097 := ⟨_, rfl⟩
  obtain ⟨y, hy⟩ : ∃ y, y = (e - e / 1460 + e / 36524 - e / 146096) / 365 := ⟨_, rfl⟩
  have hlow : 0 ≤ e := by omega
  have hhigh : e < 146097 := by omega
  have hyear := yearOfEra_bounds hlow hhigh
  have hday := dayOfYear_bounds hlow hhigh hy
  refine ⟨era, y, e - (365 * y + y / 4 - y / 100), _, by omega, by omega, by omega, hday.1, hday.2,
    rfl, ?_⟩
  unfold ofDays
  simp only [Int.fdiv_eq_ediv_of_nonneg _ (by decide : (0 : ℤ) ≤ 146097), ← hera, ← he, ← hy]
  congr 1
  split_ifs <;> omega

theorem one_le_day_ofDays (n : ℤ) : 1 ≤ (ofDays n).day := by
  obtain ⟨era, y, doy, fromMarch, -, -, -, hlow, -, hmarch, heq⟩ := ofDays_parts n
  rw [heq]
  dsimp only
  omega

theorem month_ofDays (n : ℤ) : 1 ≤ (ofDays n).month ∧ (ofDays n).month ≤ 12 := by
  obtain ⟨era, y, doy, fromMarch, -, -, -, hlow, hhigh, hmarch, heq⟩ := ofDays_parts n
  rw [heq]
  dsimp only
  split_ifs <;> omega

theorem toDays_ofDays (n : ℤ) : (ofDays n).toDays = n := by
  obtain ⟨era, y, doy, fromMarch, hn, hy, hy', hlow, hhigh, hmarch, heq⟩ := ofDays_parts n
  have hyear : (ofDays n).marchYear = y + era * 400 := by
    rw [heq, marchYear]
    dsimp only
    split_ifs <;> omega
  have hmonth : (((ofDays n).month + 9 : ℕ) : ℤ) % 12 = fromMarch := by
    rw [heq]
    dsimp only
    split_ifs <;> omega
  have hday : ((ofDays n).day : ℤ) = doy - (153 * fromMarch + 2) / 5 + 1 := by
    rw [heq]
    dsimp only
    omega
  rw [toDays_eq, hyear, hmonth, hday, daysBefore_era hy hy']
  omega

/-! ### Months -/

/-- The first day of a month, all months counted from the first one of the year 0. -/
def monthStart (k : ℤ) : ℤ := toDays ⟨k / 12, (k % 12).toNat + 1, 1⟩

theorem toDays_add_day (year : ℤ) (month day : ℕ) :
    toDays ⟨year, month, day⟩ = toDays ⟨year, month, 1⟩ + day - 1 := by
  rw [toDays_eq, toDays_eq]
  simp only [marchYear]
  omega

theorem toDays_eq_monthStart {d : Date} (hlow : 1 ≤ d.month) (hhigh : d.month ≤ 12) :
    d.toDays = monthStart (d.year * 12 + d.month - 1) + d.day - 1 := by
  have hyear : (d.year * 12 + d.month - 1) / 12 = d.year := by omega
  have hmonth : ((d.year * 12 + d.month - 1) % 12).toNat + 1 = d.month := by omega
  rw [monthStart, hyear, hmonth]
  exact toDays_add_day d.year d.month d.day

theorem isLeap_iff (year : ℤ) :
    isLeap year = true ↔ year % 4 = 0 ∧ (year % 100 ≠ 0 ∨ year % 400 = 0) := by
  simp [isLeap]

/-- February is the last month of a year that starts in March. -/
theorem toDays_march (year : ℤ) :
    toDays ⟨year, 3, 1⟩ = toDays ⟨year, 2, 1⟩ + monthDays year 2 := by
  rw [toDays_eq, toDays_eq]
  simp only [marchYear, daysBefore, monthDays]
  cases hleap : isLeap year with
  | true =>
    have := (isLeap_iff year).mp hleap
    simp
    omega
  | false =>
    have := mt (isLeap_iff year).mpr (Bool.eq_false_iff.mp hleap)
    simp
    omega

theorem toDays_nextMonth (year : ℤ) {month : ℕ} (hlow : 1 ≤ month) (hhigh : month < 12) :
    toDays ⟨year, month + 1, 1⟩ = toDays ⟨year, month, 1⟩ + monthDays year month := by
  by_cases hfebruary : month = 2
  · subst hfebruary
    exact toDays_march year
  · rw [toDays_eq, toDays_eq]
    interval_cases month <;> simp [marchYear, monthDays] at * <;> omega

theorem toDays_nextYear (year : ℤ) :
    toDays ⟨year + 1, 1, 1⟩ = toDays ⟨year, 12, 1⟩ + monthDays year 12 := by
  rw [toDays_eq, toDays_eq]
  simp [marchYear, monthDays]
  omega

/-- Months follow one another without a gap. -/
theorem monthStart_succ (k : ℤ) :
    monthStart (k + 1) = monthStart k + monthDays (k / 12) ((k % 12).toNat + 1) := by
  unfold monthStart
  by_cases hlast : k % 12 = 11
  · have hyear : (k + 1) / 12 = k / 12 + 1 := by omega
    have hmonth : (k + 1) % 12 = 0 := by omega
    rw [hyear, hmonth, hlast]
    exact toDays_nextYear (k / 12)
  · have hyear : (k + 1) / 12 = k / 12 := by omega
    have hmonth : ((k + 1) % 12).toNat = (k % 12).toNat + 1 := by omega
    rw [hyear, hmonth]
    exact toDays_nextMonth (k / 12) (by omega) (by omega)

theorem monthStart_mono {j k : ℤ} (h : j ≤ k) : monthStart j ≤ monthStart k := by
  induction k, h using Int.leInduction with
  | base => exact le_rfl
  | succ k _ ih =>
    have hnext := monthStart_succ k
    omega

/-- A date moved by months: its month, and a day that is not behind the old one. -/
theorem addMonths?_parts {d d' : Date} {months : ℤ} (h : d.addMonths? months = some d') :
    ∃ k, k = d.year * 12 + d.month - 1 + months ∧ d'.year = k / 12 ∧
      d'.month = (k % 12).toNat + 1 ∧ firstYear ≤ d'.year ∧ d'.year ≤ lastYear ∧ 1 ≤ d'.day ∧
      d'.day ≤ monthDays d'.year d'.month ∧ d'.day ≤ d.day := by
  unfold addMonths? ofParts? at h
  simp only [Int.fdiv_eq_ediv_of_nonneg _ (by decide : (0 : ℤ) ≤ 12)] at h
  split at h
  next hparts =>
    cases h
    obtain ⟨hfirst, hlast, hday, hlength⟩ := hparts
    refine ⟨_, rfl, rfl, ?_, hfirst, hlast, hday, hlength, min_le_left _ _⟩
    dsimp only
    omega
  next => cases h

/-- The days of a month stand between its start and that of the next one. -/
theorem toDays_lt_next {d : Date} (hlow : 1 ≤ d.month) (hhigh : d.month ≤ 12)
    (hday : d.day ≤ monthDays d.year d.month) :
    d.toDays < monthStart (d.year * 12 + d.month - 1 + 1) := by
  have hyear : (d.year * 12 + d.month - 1) / 12 = d.year := by omega
  have hmonth : ((d.year * 12 + d.month - 1) % 12).toNat + 1 = d.month := by omega
  have hend := monthStart_succ (d.year * 12 + d.month - 1)
  rw [hyear, hmonth] at hend
  have hd := toDays_eq_monthStart hlow hhigh
  omega

theorem toDays_addMonths?_le {d d' : Date} {n : ℕ} (hlow : 1 ≤ d.month) (hhigh : d.month ≤ 12)
    (hday : 1 ≤ d.day) (h : d.addMonths? (-n) = some d') : d'.toDays ≤ d.toDays := by
  obtain ⟨k, hk, hyear, hmonth, -, -, -, hlength, hday'⟩ := addMonths?_parts h
  have hindex : d'.year * 12 + d'.month - 1 = k := by omega
  have hold := toDays_eq_monthStart hlow hhigh
  rcases n.eq_zero_or_pos with hzero | hpos
  · have hnew := toDays_eq_monthStart (d := d') (by omega) (by omega)
    have hsame : k = d.year * 12 + d.month - 1 := by omega
    rw [hindex, hsame] at hnew
    omega
  · have hnew := toDays_lt_next (d := d') (by omega) (by omega) hlength
    have hmono : monthStart (k + 1) ≤ monthStart (d.year * 12 + d.month - 1) :=
      monthStart_mono (by omega)
    rw [hindex] at hnew
    omega

/-! ### The range of the calendar -/

theorem monthStart_firstYear : monthStart (firstYear * 12) * daySeconds = firstSecond := by decide

theorem monthStart_lastYear : monthStart (lastYear * 12 + 12) * daySeconds = lastSecond + 1 := by
  decide

/-- The days of the calendar are those between its first and its last second. -/
theorem toDays_range {d : Date} (hlow : 1 ≤ d.month) (hhigh : d.month ≤ 12) (hday : 1 ≤ d.day)
    (hlength : d.day ≤ monthDays d.year d.month) (hfirst : firstYear ≤ d.year)
    (hlast : d.year ≤ lastYear) :
    firstSecond ≤ d.toDays * daySeconds ∧ d.toDays * daySeconds + daySeconds ≤ lastSecond + 1 := by
  have hd := toDays_eq_monthStart hlow hhigh
  have hnext := toDays_lt_next hlow hhigh hlength
  have hbefore : monthStart (firstYear * 12) ≤ monthStart (d.year * 12 + d.month - 1) :=
    monthStart_mono (by omega)
  have hbehind : monthStart (d.year * 12 + d.month - 1 + 1) ≤ monthStart (lastYear * 12 + 12) :=
    monthStart_mono (by omega)
  have hstart := monthStart_firstYear
  have hend := monthStart_lastYear
  unfold daySeconds at *
  omega

/-- What is not behind the last second is no date of a later year. -/
theorem year_le_of_toDays {d : Date} (hlow : 1 ≤ d.month) (hhigh : d.month ≤ 12)
    (hday : 1 ≤ d.day) (h : d.toDays * daySeconds ≤ lastSecond) : d.year ≤ lastYear := by
  by_contra hlate
  have hd := toDays_eq_monthStart hlow hhigh
  have hbehind : monthStart (lastYear * 12 + 12) ≤ monthStart (d.year * 12 + d.month - 1) :=
    monthStart_mono (by omega)
  have hend := monthStart_lastYear
  unfold daySeconds at *
  omega

end Date

/-! ### Instants moved by months -/

/-- The date of an instant, and the time of its day. -/
theorem addMonths?_eq_some {instant months moved : ℤ} (h : addMonths? instant months = some moved) :
    ∃ (d d' : Date) (time : ℤ), d.addMonths? months = some d' ∧ 1 ≤ d.month ∧ d.month ≤ 12 ∧
      1 ≤ d.day ∧ 0 ≤ time ∧ time < daySeconds ∧ instant = d.toDays * daySeconds + time ∧
      moved = d'.toDays * daySeconds + time := by
  obtain ⟨d', hd', rfl⟩ := Option.map_eq_some_iff.mp h
  obtain ⟨hlow, hhigh⟩ := Date.month_ofDays (instant.fdiv daySeconds)
  have hfloor : instant.fdiv daySeconds = instant / daySeconds :=
    Int.fdiv_eq_ediv_of_nonneg _ (by decide)
  have hdays := Date.toDays_ofDays (instant.fdiv daySeconds)
  refine ⟨_, d', _, hd', hlow, hhigh, Date.one_le_day_ofDays _, ?_, ?_, ?_, rfl⟩
  · rw [hfloor, daySeconds]
    omega
  · rw [hfloor, daySeconds]
    omega
  · rw [hdays, hfloor, daySeconds]
    omega

/-- Going back by months leads to no later instant, also where the day has to be an earlier one of
its month. -/
theorem addMonths?_le {instant moved : ℤ} {n : ℕ} (h : addMonths? instant (-n) = some moved) :
    moved ≤ instant := by
  obtain ⟨d, d', time, hd, hlow, hhigh, hday, -, -, rfl, rfl⟩ := addMonths?_eq_some h
  have hle := Date.toDays_addMonths?_le hlow hhigh hday hd
  unfold daySeconds
  omega

theorem addMonths?_calendar {instant months moved : ℤ}
    (h : addMonths? instant months = some moved) : firstSecond ≤ moved ∧ moved ≤ lastSecond := by
  obtain ⟨d, d', time, hd, -, -, -, hlow, hhigh, -, rfl⟩ := addMonths?_eq_some h
  obtain ⟨k, -, -, hmonth, hfirst, hlast, hday, hlength, -⟩ := Date.addMonths?_parts hd
  have hrange := Date.toDays_range (by omega) (by omega) hday hlength hfirst hlast
  omega

/-- No instant of the calendar is so many months behind another one. -/
theorem addMonths?_eq_none {instant : ℤ} {n : ℕ} (hlast : instant ≤ lastSecond)
    (hn : 2147483647 < n) : addMonths? instant (-n) = none := by
  cases h : addMonths? instant (-n) with
  | none => rfl
  | some moved =>
    obtain ⟨d, d', time, hd, hlow, hhigh, hday, htime, -, rfl, -⟩ := addMonths?_eq_some h
    obtain ⟨k, hk, hyear, -, hfirst, -⟩ := Date.addMonths?_parts hd
    have hyear' := Date.year_le_of_toDays hlow hhigh hday (by omega)
    unfold firstYear lastYear at *
    omega

end Gleaner.Calendar
