import Gleaner.Calendar.Stamp
import Gleaner.Proofs.Calendar.Format

/-!
The texts that are standard dates, taken apart into their fields (`timestampText_of_timestamp?`,
`mailText_of_mailDate?`). A zone ends both forms, so that no text of either is over behind its clock
time.
-/
namespace Gleaner.Calendar

theorem expect_eq_some {c : Char} {cs rest : List Char} (h : expect c cs = some rest) :
    cs = c :: rest := by
  cases cs with
  | nil => cases h
  | cons d cs =>
    by_cases hd : c = d
    · rw [expect, if_pos hd] at h
      cases h
      rw [hd]
    · rw [expect, if_neg hd] at h
      cases h

theorem someBlanks?_eq_some {cs rest : List Char} (h : someBlanks? cs = some rest) :
    ∃ c tail, cs = c :: tail ∧ Text.isBlank c = true ∧ rest = Text.trimStart cs := by
  cases cs with
  | nil => cases h
  | cons c tail =>
    by_cases hc : Text.isBlank c = true
    · rw [someBlanks?, if_pos hc] at h
      cases h
      refine ⟨c, tail, rfl, hc, ?_⟩
      rw [Text.trimStart, Text.trimStart, List.dropWhile_cons_of_pos hc]
    · rw [someBlanks?, if_neg hc] at h
      cases h

theorem ne_nil_of_zone? {style : ZoneStyle} {cs : List Char} {r : Int × List Char}
    (h : zone? style cs = some r) : cs ≠ [] := by
  rintro rfl
  cases h

/-- A clock time with more behind its seconds, also behind their fraction. -/
inductive ClockText : List Char → Prop
  | fields {cs afterHour afterMinute afterSecond : List Char} {hour minute second : Nat} :
    twoDigits? cs = some (hour, ':' :: afterHour) →
    twoDigits? afterHour = some (minute, ':' :: afterMinute) →
    twoDigits? afterMinute = some (second, afterSecond) →
    afterSecond ≠ [] → ¬ Item.Leaves .fraction afterSecond [] → ClockText cs

inductive TimestampText : List Char → Prop
  | fields {cs afterYear afterMonth clock : List Char} {year month day : Nat} {separator : Char} :
    digits? 4 4 cs = some (year, '-' :: afterYear) →
    twoDigits? afterYear = some (month, '-' :: afterMonth) →
    twoDigits? afterMonth = some (day, separator :: clock) →
    (separator = 'T' ∨ separator = 't' ∨ separator = ' ') → ClockText clock → TimestampText cs

theorem not_leaves_fraction {digits after : List Char} {n : Nat}
    (hread : nanos? digits = some (n, after)) (hafter : after ≠ []) :
    ¬ Item.Leaves .fraction ('.' :: digits) [] := by
  intro hleaves
  rcases hleaves.fraction with ⟨digits', m, hcs, hread'⟩ | ⟨hno, -⟩
  · cases hcs
    cases hread.symm.trans hread'
    exact hafter rfl
  · exact hno digits rfl

theorem timestampText_of_timestamp? {cs : List Char} {millis : Int}
    (h : timestamp? cs = some millis) : TimestampText cs := by
  obtain ⟨⟨year, behindYear⟩, hyear, h⟩ := Option.bind_eq_some_iff.mp h
  obtain ⟨afterYear, hdash, h⟩ := Option.bind_eq_some_iff.mp h
  obtain ⟨⟨month, behindMonth⟩, hmonth, h⟩ := Option.bind_eq_some_iff.mp h
  obtain ⟨_, -, h⟩ := Option.bind_eq_some_iff.mp h
  obtain ⟨afterMonth, hdash', h⟩ := Option.bind_eq_some_iff.mp h
  obtain ⟨⟨day, behindDay⟩, hday, h⟩ := Option.bind_eq_some_iff.mp h
  obtain ⟨_, -, h⟩ := Option.bind_eq_some_iff.mp h
  dsimp only at hdash hdash' h
  obtain ⟨separator, clock, rfl, hseparator⟩ : ∃ separator clock,
      behindDay = separator :: clock ∧ (separator = 'T' ∨ separator = 't' ∨ separator = ' ') := by
    split at h
    · exact ⟨'T', _, rfl, Or.inl rfl⟩
    · exact ⟨'t', _, rfl, Or.inr (Or.inl rfl)⟩
    · exact ⟨' ', _, rfl, Or.inr (Or.inr rfl)⟩
    · cases h
  -- The clock time is read alike behind the three separators.
  have hclock : ClockText clock := by
    rcases hseparator with rfl | rfl | rfl <;>
    · obtain ⟨_, hrest, h⟩ := Option.bind_eq_some_iff.mp h
      cases hrest
      obtain ⟨⟨hour, behindHour⟩, hhour, h⟩ := Option.bind_eq_some_iff.mp h
      obtain ⟨_, -, h⟩ := Option.bind_eq_some_iff.mp h
      obtain ⟨afterHour, hcolon, h⟩ := Option.bind_eq_some_iff.mp h
      obtain ⟨⟨minute, behindMinute⟩, hminute, h⟩ := Option.bind_eq_some_iff.mp h
      obtain ⟨_, -, h⟩ := Option.bind_eq_some_iff.mp h
      obtain ⟨afterMinute, hcolon', h⟩ := Option.bind_eq_some_iff.mp h
      obtain ⟨⟨second, afterSecond⟩, hsecond, h⟩ := Option.bind_eq_some_iff.mp h
      obtain ⟨_, -, h⟩ := Option.bind_eq_some_iff.mp h
      dsimp only at hcolon hcolon' h
      have hmore : afterSecond ≠ [] ∧ ¬ Item.Leaves .fraction afterSecond [] := by
        split at h
        next =>
          obtain ⟨⟨nanos, after⟩, hnanos, h⟩ := Option.bind_eq_some_iff.mp h
          obtain ⟨zone, hzone, -⟩ := Option.bind_eq_some_iff.mp h
          exact ⟨List.cons_ne_nil _ _, not_leaves_fraction hnanos (ne_nil_of_zone? hzone)⟩
        next =>
          have hno : ∀ digits, afterSecond = '.' :: digits → False := by assumption
          obtain ⟨_, hnanos, h⟩ := Option.bind_eq_some_iff.mp h
          cases hnanos
          obtain ⟨zone, hzone, -⟩ := Option.bind_eq_some_iff.mp h
          refine ⟨ne_nil_of_zone? hzone, fun hleaves => ?_⟩
          rcases hleaves.fraction with ⟨digits, n, hcs, -⟩ | ⟨-, hnil⟩
          · exact hno digits hcs
          · exact ne_nil_of_zone? hzone hnil.symm
      exact .fields (expect_eq_some hcolon ▸ hhour) (expect_eq_some hcolon' ▸ hminute) hsecond
        hmore.1 hmore.2
  exact .fields (expect_eq_some hdash ▸ hyear) (expect_eq_some hdash' ▸ hmonth) hday hseparator
    hclock

/-- The fields of a mail date. With a day of the week nothing more is said of them; without one,
more follows the seconds, if there are any. -/
inductive MailText : List Char → Prop
  | weekday {cs : List Char} {i : Nat} :
    (weekdayStarts.findIdx? fun w => startsWith w cs) = some i → MailText cs
  | plain {cs afterDay afterMonth afterYear afterHour afterColon afterMinute : List Char}
    {day month year hour minute : Nat} :
    digits? 1 2 cs = some (day, afterDay) →
    (∃ rest, someBlanks? afterDay = some rest ∧
      monthAbbreviation? rest = some (month, afterMonth)) →
    (∃ rest most, someBlanks? afterMonth = some rest ∧
      digits? 2 most rest = some (year, afterYear)) →
    (∃ rest, someBlanks? afterYear = some rest ∧ twoDigits? rest = some (hour, afterHour)) →
    expect ':' (Text.trimStart afterHour) = some afterColon →
    twoDigits? (Text.trimStart afterColon) = some (minute, afterMinute) →
    (∀ digits, Text.trimStart afterMinute = ':' :: digits →
      ∃ second rest, twoDigits? digits = some (second, rest) ∧ rest ≠ []) → MailText cs

theorem mailText_of_mailDate? {cs : List Char} {millis : Int} (h : mailDate? cs = some millis) :
    MailText (Text.trimStart cs) := by
  unfold mailDate? at h
  dsimp only at h
  split at h
  next i hweekday => exact .weekday hweekday
  next =>
    obtain ⟨_, hplain, h⟩ := Option.bind_eq_some_iff.mp h
    cases hplain
    obtain ⟨⟨day, afterDay⟩, hday, h⟩ := Option.bind_eq_some_iff.mp h
    obtain ⟨_, -, h⟩ := Option.bind_eq_some_iff.mp h
    obtain ⟨behindDay, hblank, h⟩ := Option.bind_eq_some_iff.mp h
    obtain ⟨⟨month, afterMonth⟩, hmonth, h⟩ := Option.bind_eq_some_iff.mp h
    obtain ⟨behindMonth, hblank', h⟩ := Option.bind_eq_some_iff.mp h
    obtain ⟨⟨year, afterYear⟩, hyear, h⟩ := Option.bind_eq_some_iff.mp h
    obtain ⟨behindYear, hblank'', h⟩ := Option.bind_eq_some_iff.mp h
    obtain ⟨⟨hour, afterHour⟩, hhour, h⟩ := Option.bind_eq_some_iff.mp h
    obtain ⟨_, -, h⟩ := Option.bind_eq_some_iff.mp h
    obtain ⟨afterColon, hcolon, h⟩ := Option.bind_eq_some_iff.mp h
    obtain ⟨⟨minute, afterMinute⟩, hminute, h⟩ := Option.bind_eq_some_iff.mp h
    obtain ⟨_, -, h⟩ := Option.bind_eq_some_iff.mp h
    dsimp only at hblank' hblank'' hcolon h
    rw [Text.trimStart_eq_self (Text.head?_trimStart cs)] at hday
    refine .plain hday ⟨behindDay, hblank, hmonth⟩ ⟨behindMonth, _, hblank', hyear⟩
      ⟨behindYear, hblank'', hhour⟩ hcolon hminute fun digits hdigits => ?_
    rw [hdigits] at h
    obtain ⟨⟨second, rest⟩, hsecond, h⟩ := Option.bind_eq_some_iff.mp h
    obtain ⟨_, -, h⟩ := Option.bind_eq_some_iff.mp h
    obtain ⟨behindSecond, hblank, -⟩ := Option.bind_eq_some_iff.mp h
    refine ⟨second, rest, hsecond, ?_⟩
    rintro rfl
    cases hblank

end Gleaner.Calendar
