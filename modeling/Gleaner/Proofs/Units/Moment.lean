import Gleaner.Proofs.Calendar.Stamp
import Gleaner.Units.Moment

/-!
Reading a moment with an offset and without one. The two try the forms in different orders, which
makes no difference: no text is both a standard date and a naive one
(`naive?_eq_none_of_timestamp?`, `naive?_eq_none_of_mailDate?`).
-/
namespace Gleaner.Moment

open Calendar

/-! ### Naive formats -/

def clockTimes : List Format := [minutes, seconds, seconds ++ [.fraction]]

theorem minutes_mem : minutes ∈ clockTimes := by simp [clockTimes]

theorem seconds_mem : seconds ∈ clockTimes := by simp [clockTimes]

theorem exists_hour {time : Format} (h : time ∈ clockTimes) : ∃ f, time = .hour :: f := by
  simp only [clockTimes, List.mem_cons, List.not_mem_nil, or_false] at h
  rcases h with rfl | rfl | rfl <;> exact ⟨_, rfl⟩

def dayFirst : Format := [.day, .space, .monthAbbreviation, .space, .year, .space] ++ seconds

def monthFirst : Format :=
  [.monthAbbreviation, .space, .day, .space, .year, .literal ',', .space] ++ minutes

/-- The shapes of the naive formats, those of dates alone included. -/
inductive NaiveFormat : Format → Prop
  | date {separator : Char} :
    separator = '-' ∨ separator = '/' → NaiveFormat (numericDate separator)
  | dateTime {separator : Char} {i : Item} {time : Format} :
    separator = '-' ∨ separator = '/' → i = .space ∨ i = .literal 'T' → time ∈ clockTimes →
    NaiveFormat (numericDate separator ++ i :: time)
  | dayFirst : NaiveFormat dayFirst
  | monthFirst : NaiveFormat monthFirst

theorem naiveFormat_of_mem {f : Format} (h : f ∈ naiveFormats ++ dateFormats) : NaiveFormat f := by
  have hdash : '-' = '-' ∨ '-' = '/' := Or.inl rfl
  have hslash : '/' = '-' ∨ '/' = '/' := Or.inr rfl
  have hspace : Item.space = .space ∨ Item.space = .literal 'T' := Or.inl rfl
  have hT : Item.literal 'T' = .space ∨ Item.literal 'T' = .literal 'T' := Or.inr rfl
  have hfraction : seconds ++ [.fraction] ∈ clockTimes := by simp [clockTimes]
  simp only [naiveFormats, dateFormats, List.cons_append, List.nil_append, List.mem_cons,
    List.not_mem_nil, or_false] at h
  rcases h with rfl | rfl | rfl | rfl | rfl | rfl | rfl | rfl | rfl | rfl | rfl
  · exact .dateTime hdash hspace seconds_mem
  · exact .dateTime hdash hT seconds_mem
  · exact .dateTime hdash hspace hfraction
  · exact .dateTime hdash hT hfraction
  · exact .dateTime hdash hspace minutes_mem
  · exact .dateTime hslash hspace seconds_mem
  · exact .dateTime hslash hspace minutes_mem
  · exact .dayFirst
  · exact .monthFirst
  · exact .date hdash
  · exact .date hslash

theorem naive?_eq_none {text : String}
    (h : ∀ f, NaiveFormat f → ¬ f.Leaves (Text.trim text.toList) []) : naive? text = none := by
  have hnone : ∀ f ∈ naiveFormats ++ dateFormats, f.parse? (Text.trim text.toList) = none := by
    intro f hf
    cases hparse : f.parse? (Text.trim text.toList) with
    | none => rfl
    | some p => exact absurd (Format.leaves_of_parse? hparse) (h f (naiveFormat_of_mem hf))
  rw [naive?, Option.or_eq_none_iff, List.findSome?_eq_none_iff, List.findSome?_eq_none_iff]
  constructor
  · intro f hf
    rw [hnone f (List.mem_append_left _ hf), Option.bind_none]
  · intro f hf
    rw [hnone f (List.mem_append_right _ hf), Option.bind_none]

/-! ### Timestamps -/

theorem minutes_leaves {cs afterHour left rest : List Char} {hour minute : Nat}
    (hhour : twoDigits? cs = some (hour, ':' :: afterHour))
    (hminute : twoDigits? afterHour = some (minute, rest)) (h : minutes.Leaves cs left) :
    left = rest := by
  obtain ⟨mid, hh, h⟩ := h.cons
  cases hh.twoDigits rfl hhour
  obtain ⟨mid, hcolon, h⟩ := h.cons
  cases hcolon.literal
  obtain ⟨mid, hm, h⟩ := h.cons
  cases hm.twoDigits rfl hminute
  exact h.nil.symm

theorem seconds_leaves {cs afterHour afterMinute left rest : List Char} {hour minute second : Nat}
    (hhour : twoDigits? cs = some (hour, ':' :: afterHour))
    (hminute : twoDigits? afterHour = some (minute, ':' :: afterMinute))
    (hsecond : twoDigits? afterMinute = some (second, rest)) (h : seconds.Leaves cs left) :
    left = rest := by
  obtain ⟨mid, hminutes, h⟩ := Format.Leaves.append h
  cases minutes_leaves hhour hminute hminutes
  obtain ⟨mid, hcolon, h⟩ := h.cons
  cases hcolon.literal
  obtain ⟨mid, hs, h⟩ := h.cons
  cases hs.twoDigits rfl hsecond
  exact h.nil.symm

theorem not_leaves_of_clockText {time : Format} {cs : List Char} (htime : time ∈ clockTimes)
    (hclock : ClockText cs) : ¬ time.Leaves cs [] := by
  intro h
  obtain ⟨hhour, hminute, hsecond, hmore, hfraction⟩ := hclock
  simp only [clockTimes, List.mem_cons, List.not_mem_nil, or_false] at htime
  rcases htime with rfl | rfl | rfl
  · cases minutes_leaves hhour hminute h
  · exact hmore (seconds_leaves hhour hminute hsecond h).symm
  · obtain ⟨mid, hseconds, h⟩ := h.append
    cases seconds_leaves hhour hminute hsecond hseconds
    obtain ⟨mid, hf, h⟩ := h.cons
    cases h.nil
    exact hfraction hf

theorem isDigit_of_clockText {cs : List Char} (h : ClockText cs) :
    ∃ c tail, cs = c :: tail ∧ c.isDigit = true := by
  obtain ⟨hhour, -, -, -, -⟩ := h
  exact exists_cons_of_digits? hhour (by omega)

/-- Where a field is read, no letter stands. -/
theorem not_leaves_field {i : Item} (hi : i.isField = true) {f : Format} {c : Char}
    {tail left : List Char} (hc : c.isAlpha = true) :
    ¬ Format.Leaves (i :: f) (c :: tail) left := by
  intro h
  obtain ⟨mid, hfield, -⟩ := h.cons
  obtain ⟨n, hn⟩ := hfield.field hi
  rw [Text.trimStart_cons (Text.isBlank_of_isAlpha hc),
    digits?_eq_none (Text.isDigit_of_isAlpha hc) (by omega)] at hn
  cases hn

theorem not_leaves_time {i : Item} {time : Format} {separator : Char} {clock : List Char}
    (hi : i = .space ∨ i = .literal 'T') (htime : time ∈ clockTimes)
    (hseparator : separator = 'T' ∨ separator = 't' ∨ separator = ' ') (hclock : ClockText clock) :
    ¬ Format.Leaves (i :: time) (separator :: clock) [] := by
  intro h
  obtain ⟨mid, hitem, htail⟩ := h.cons
  have hletter : ∀ c, c.isAlpha = true → ¬ Format.Leaves time (c :: clock) [] := by
    intro c hc
    obtain ⟨f, rfl⟩ := exists_hour htime
    exact not_leaves_field (i := .hour) rfl hc
  rcases hi with rfl | rfl
  · cases hitem.space
    rcases hseparator with rfl | rfl | rfl
    · exact hletter 'T' (by decide) htail
    · exact hletter 't' (by decide) htail
    · have htrim : Text.trimStart (' ' :: clock) = clock := by
        obtain ⟨c, tail, rfl, hc⟩ := isDigit_of_clockText hclock
        rw [Text.trimStart, List.dropWhile_cons_of_pos (by decide)]
        exact Text.trimStart_cons (Text.isBlank_of_isDigit hc) tail
      rw [htrim] at htail
      exact not_leaves_of_clockText htime hclock htail
  · cases hitem.literal
    exact not_leaves_of_clockText htime hclock htail

/-- A month's name can only stand where a letter does. -/
theorem not_leaves_month {f : Format} {c : Char} {tail left : List Char} (hc : c.isDigit = true) :
    ¬ Format.Leaves (.monthAbbreviation :: f) (c :: tail) left := by
  intro h
  obtain ⟨mid, hmonth, -⟩ := h.cons
  obtain ⟨m, hm⟩ := hmonth.monthAbbreviation
  obtain ⟨d, rest, hcons, hd⟩ := isAlpha_of_monthAbbreviation? hm
  cases hcons
  rw [Text.isDigit_of_isAlpha hd] at hc
  cases hc

theorem numericDate_leaves {separator : Char} {cs afterYear afterMonth left rest : List Char}
    {year month day : Nat} (hyear : digits? 4 4 cs = some (year, '-' :: afterYear))
    (hmonth : twoDigits? afterYear = some (month, '-' :: afterMonth))
    (hday : twoDigits? afterMonth = some (day, rest))
    (h : (numericDate separator).Leaves cs left) : left = rest := by
  obtain ⟨c, tail, rfl, hc⟩ := exists_cons_of_digits? hyear (by omega)
  obtain ⟨mid, hy, h⟩ := h.cons
  obtain ⟨n, hn⟩ := hy.year (by simp [Char.isAlphanum, hc])
  cases hn.symm.trans (digits?_of_le hyear (by omega))
  obtain ⟨mid, hdash, h⟩ := h.cons
  cases hdash.literal
  obtain ⟨mid, hm, h⟩ := h.cons
  cases hm.twoDigits rfl hmonth
  obtain ⟨mid, hdash, h⟩ := h.cons
  cases hdash.literal
  obtain ⟨mid, hd, h⟩ := h.cons
  cases hd.twoDigits rfl hday
  exact h.nil.symm

/-- A day leaves digits of the year, where the name of a month would have to stand. -/
theorem not_leaves_dayFirst {cs rest left : List Char} {year : Nat}
    (hyear : digits? 4 4 cs = some (year, rest)) : ¬ dayFirst.Leaves cs left := by
  intro h
  obtain ⟨ds, rfl, hdigits, hleast, -⟩ := digits?_eq_some hyear
  obtain ⟨a, b, c, tail, rfl⟩ : ∃ a b c tail, ds = a :: b :: c :: tail := by
    rcases ds with _ | ⟨a, _ | ⟨b, _ | ⟨c, tail⟩⟩⟩
    · simp at hleast
    · simp at hleast
    · simp at hleast
    · exact ⟨a, b, c, tail, rfl⟩
  have hc : c.isDigit = true := hdigits c (by simp)
  have hread : digits? 1 2 ([a, b] ++ (c :: (tail ++ rest))) =
      some (Decimal.digitsValue [a, b], c :: (tail ++ rest)) :=
    digits?_append (fun d hd => hdigits d (by simp at hd ⊢; tauto)) (by simp) (by simp)
      (Or.inl rfl)
  obtain ⟨mid, hday, h⟩ := h.cons
  obtain ⟨n, hn⟩ := hday.field rfl
  rw [trimStart_of_digits? (digits?_of_le hyear (by omega) : digits? 1 4 _ = _) (by omega)] at hn
  cases hn.symm.trans hread
  obtain ⟨mid, hspace, h⟩ := h.cons
  cases hspace.space
  rw [Text.trimStart_cons (Text.isBlank_of_isDigit hc)] at h
  exact not_leaves_month hc h

theorem not_leaves_of_timestampText {f : Format} {cs : List Char} (hf : NaiveFormat f)
    (hcs : TimestampText cs) : ¬ f.Leaves cs [] := by
  intro h
  obtain ⟨hyear, hmonth, hday, hseparator, hclock⟩ := hcs
  cases hf with
  | date _ => cases numericDate_leaves hyear hmonth hday h
  | dateTime _ hi htime =>
    obtain ⟨mid, hdate, h⟩ := h.append
    cases numericDate_leaves hyear hmonth hday hdate
    exact not_leaves_time hi htime hseparator hclock h
  | dayFirst => exact not_leaves_dayFirst hyear h
  | monthFirst =>
    obtain ⟨c, tail, rfl, hc⟩ := exists_cons_of_digits? hyear (by omega)
    exact not_leaves_month hc h

/-! ### Mail dates -/

theorem not_leaves_date_of_letter {separator : Char} {c : Char} {tail left : List Char}
    (hc : c.isAlpha = true) : ¬ (numericDate separator).Leaves (c :: tail) left := by
  intro h
  obtain ⟨mid, hyear, -⟩ := h.cons
  obtain ⟨n, hn⟩ := hyear.year (by simp [Char.isAlphanum, hc])
  rw [digits?_eq_none (Text.isDigit_of_isAlpha hc) (by omega)] at hn
  cases hn

theorem monthAbbreviation?_of_weekday {w cs : List Char} (hw : w ∈ weekdayStarts)
    (hstart : startsWith w cs = true) : monthAbbreviation? cs = none := by
  have hlength : ∀ w ∈ weekdayStarts, ∀ m ∈ monthStarts, w.length = m.length ∧ w ≠ m := by decide
  have hnone : (monthStarts.findIdx? fun m => startsWith m cs) = none := by
    rw [List.findIdx?_eq_none_iff]
    intro m hm
    obtain ⟨hsame, hne⟩ := hlength w hw m hm
    have hlower : (cs.take w.length).map Char.toLower = w := beq_iff_eq.mp hstart
    rw [startsWith, ← hsame, hlower]
    exact beq_eq_false_iff_ne.mpr hne
  rw [monthAbbreviation?, hnone, Option.map_none]

theorem not_leaves_of_weekday {f : Format} {w cs : List Char} (hf : NaiveFormat f)
    (hw : w ∈ weekdayStarts) (hstart : startsWith w cs = true) : ¬ f.Leaves cs [] := by
  intro h
  have hletters : ∀ w ∈ weekdayStarts, w.head?.any Char.isAlpha = true := by decide
  obtain ⟨c, tail, rfl, hc⟩ := isAlpha_of_startsWith (hletters w hw) hstart
  cases hf with
  | date _ => exact not_leaves_date_of_letter hc h
  | dateTime _ _ _ =>
    obtain ⟨mid, hdate, -⟩ := h.append
    exact not_leaves_date_of_letter hc hdate
  | dayFirst => exact not_leaves_field rfl hc h
  | monthFirst =>
    obtain ⟨mid, hmonth, -⟩ := h.cons
    obtain ⟨m, hm⟩ := hmonth.monthAbbreviation
    rw [monthAbbreviation?_of_weekday hw hstart] at hm
    cases hm

/-- Behind a number of one or two digits with a blank behind it, no date goes on with a sign. -/
theorem not_leaves_date_of_blank {separator : Char} {cs rest rest' left : List Char} {day : Nat}
    (hseparator : separator = '-' ∨ separator = '/') (hday : digits? 1 2 cs = some (day, rest))
    (hblank : someBlanks? rest = some rest') : ¬ (numericDate separator).Leaves cs left := by
  intro h
  obtain ⟨b, tail, rfl, hb, -⟩ := someBlanks?_eq_some hblank
  obtain ⟨c, tail', hcons, hc⟩ := exists_cons_of_digits? hday (by omega)
  obtain ⟨ds, happend, hdigits, hleast, hmost⟩ := digits?_eq_some hday
  have hread : digits? 1 4 cs = some (Decimal.digitsValue ds, b :: tail) := by
    rw [happend]
    refine digits?_append hdigits hleast (by omega) (Or.inr ?_)
    rintro d ⟨⟩
    exact Text.isDigit_of_isBlank hb
  obtain ⟨mid, hyear, h⟩ := h.cons
  rw [hcons] at hyear
  obtain ⟨n, hn⟩ := hyear.year (by simp [Char.isAlphanum, hc])
  rw [← hcons] at hn
  cases hn.symm.trans hread
  obtain ⟨mid, hsign, -⟩ := h.cons
  cases hsign.literal
  rcases hseparator with rfl | rfl
  · exact absurd hb (by decide)
  · exact absurd hb (by decide)

theorem dayFirst_leaves {cs afterDay afterMonth left : List Char} {day month : Nat}
    (hday : digits? 1 2 cs = some (day, afterDay))
    (hmonth : monthAbbreviation? (Text.trimStart afterDay) = some (month, afterMonth))
    (h : dayFirst.Leaves cs left) :
    ∃ afterYear, Item.Leaves .year (Text.trimStart afterMonth) afterYear ∧
      seconds.Leaves (Text.trimStart afterYear) left := by
  obtain ⟨mid, hd, h⟩ := h.cons
  obtain ⟨n, hn⟩ := hd.field rfl
  rw [trimStart_of_digits? hday (by omega)] at hn
  cases hn.symm.trans hday
  obtain ⟨mid, hspace, h⟩ := h.cons
  cases hspace.space
  obtain ⟨mid, hm, h⟩ := h.cons
  obtain ⟨m, hm⟩ := hm.monthAbbreviation
  cases hm.symm.trans hmonth
  obtain ⟨mid, hspace, h⟩ := h.cons
  cases hspace.space
  obtain ⟨afterYear, hyear, h⟩ := h.cons
  obtain ⟨mid, hspace, h⟩ := h.cons
  cases hspace.space
  exact ⟨afterYear, hyear, h⟩

/-- Of a year with a blank behind it, the first digits leave the others. -/
theorem year_leaves {cs left afterYear behindYear : List Char} {most year : Nat}
    (hyear : digits? 2 most cs = some (year, afterYear))
    (hblank : someBlanks? afterYear = some behindYear) (h : Item.Leaves .year cs left) :
    ∃ ds, left = ds ++ afterYear ∧ ∀ d ∈ ds, d.isDigit = true := by
  obtain ⟨b, tail, rfl, hb, -⟩ := someBlanks?_eq_some hblank
  obtain ⟨ds, happend, hdigits, -, -⟩ := digits?_eq_some hyear
  obtain ⟨c, tail', rfl, hc⟩ := exists_cons_of_digits? hyear (by omega)
  obtain ⟨n, hn⟩ := h.year (by simp [Char.isAlphanum, hc])
  obtain ⟨ds', happend', hdigits', -, -⟩ := digits?_eq_some hn
  rcases List.append_eq_append_iff.mp (happend.symm.trans happend') with
    ⟨more, rfl, hmore⟩ | ⟨more, rfl, hmore⟩
  · cases more with
    | nil => exact ⟨[], hmore.symm, by simp⟩
    | cons d more =>
      obtain ⟨rfl, -⟩ := List.cons.inj hmore
      have hd := hdigits' b (by simp)
      rw [Text.isDigit_of_isBlank hb] at hd
      cases hd
  · exact ⟨more, hmore, fun d hd => hdigits d (List.mem_append_right _ hd)⟩

/-- An hour cannot be read out of such digits, since a colon ends it. -/
theorem not_leaves_hour {ds afterYear behindYear left : List Char} {f : Format}
    (hne : ds ≠ []) (hdigits : ∀ d ∈ ds, d.isDigit = true)
    (hblank : someBlanks? afterYear = some behindYear) :
    ¬ Format.Leaves (.hour :: .literal ':' :: f) (ds ++ afterYear) left := by
  intro h
  obtain ⟨b, tail, rfl, hb, -⟩ := someBlanks?_eq_some hblank
  obtain ⟨mid, hhour, h⟩ := h.cons
  obtain ⟨mid', hcolon, -⟩ := h.cons
  cases hcolon.literal
  obtain ⟨n, hn⟩ := hhour.field rfl
  have htrim : Text.trimStart (ds ++ b :: tail) = ds ++ b :: tail := by
    cases ds with
    | nil => exact absurd rfl hne
    | cons d ds =>
      exact Text.trimStart_cons (Text.isBlank_of_isDigit (hdigits d List.mem_cons_self)) _
  rw [htrim] at hn
  obtain ⟨es, happend, hdigits', -, -⟩ := digits?_eq_some hn
  have hdrop : ∀ {ds : List Char} {c : Char} {rest : List Char}, (∀ d ∈ ds, d.isDigit = true) →
      c.isDigit = false → (ds ++ c :: rest).dropWhile Char.isDigit = c :: rest := by
    intro ds c rest hds hc
    rw [List.dropWhile_append_of_pos hds, List.dropWhile_cons_of_neg (by simp [hc])]
  have hsame := congrArg (List.dropWhile Char.isDigit) happend
  rw [hdrop hdigits (Text.isDigit_of_isBlank hb), hdrop hdigits' (by decide)] at hsame
  cases hsame
  exact absurd hb (by decide)

/-- The minutes and seconds of a mail date, read by a format in the same steps. -/
theorem not_leaves_seconds {cs afterHour afterColon afterMinute : List Char} {hour minute : Nat}
    (hhour : twoDigits? cs = some (hour, afterHour))
    (hcolon : expect ':' (Text.trimStart afterHour) = some afterColon)
    (hminute : twoDigits? (Text.trimStart afterColon) = some (minute, afterMinute))
    (hsecond : ∀ digits, Text.trimStart afterMinute = ':' :: digits →
      ∃ second rest, twoDigits? digits = some (second, rest) ∧ rest ≠ []) :
    ¬ seconds.Leaves cs [] := by
  intro h
  have hkeep : ∀ rest, Text.trimStart (':' :: rest) = ':' :: rest := Text.trimStart_cons rfl
  obtain ⟨mid, hh, h⟩ := h.cons
  cases hh.twoDigits rfl hhour
  obtain ⟨mid, hliteral, h⟩ := h.cons
  rw [hliteral.literal, hkeep] at hcolon
  cases expect_eq_some hcolon
  obtain ⟨mid', hm, h⟩ := h.cons
  obtain ⟨n, hn⟩ := hm.field rfl
  cases hn.symm.trans (digits?_of_le hminute (by omega))
  obtain ⟨digits, hliteral, h⟩ := h.cons
  obtain ⟨second, rest, hdigits, hrest⟩ := hsecond digits (by rw [hliteral.literal, hkeep])
  obtain ⟨mid', hs, h⟩ := h.cons
  cases hs.twoDigits rfl hdigits
  exact hrest h.nil

theorem not_leaves_of_mailText {f : Format} {cs : List Char} (hf : NaiveFormat f)
    (hcs : MailText cs) : ¬ f.Leaves cs [] := by
  cases hcs with
  | weekday hweekday =>
    obtain ⟨w, hw, hstart⟩ := startsWith_of_findIdx? hweekday
    exact not_leaves_of_weekday hf hw hstart
  | plain hday hmonth hyear hhour hcolon hminute hsecond =>
    intro h
    obtain ⟨behindDay, hblank, hmonth⟩ := hmonth
    cases hf with
    | date hseparator => exact not_leaves_date_of_blank hseparator hday hblank h
    | dateTime hseparator _ _ =>
      obtain ⟨mid, hdate, -⟩ := h.append
      exact not_leaves_date_of_blank hseparator hday hblank hdate
    | monthFirst =>
      obtain ⟨c, tail, rfl, hc⟩ := exists_cons_of_digits? hday (by omega)
      exact not_leaves_month hc h
    | dayFirst =>
      obtain ⟨behindMonth, most, hblank', hyear⟩ := hyear
      obtain ⟨behindYear, hblank'', hhour⟩ := hhour
      obtain ⟨_, _, _, _, rfl⟩ := someBlanks?_eq_some hblank
      obtain ⟨_, _, _, _, rfl⟩ := someBlanks?_eq_some hblank'
      obtain ⟨mid, hy, h⟩ := dayFirst_leaves hday hmonth h
      obtain ⟨ds, rfl, hdigits⟩ := year_leaves hyear hblank'' hy
      -- A year of more than four digits leaves some of them where the hour has to stand.
      cases ds with
      | nil =>
        obtain ⟨_, _, _, _, rfl⟩ := someBlanks?_eq_some hblank''
        exact not_leaves_seconds hhour hcolon hminute hsecond h
      | cons d ds =>
        have hd := Text.isBlank_of_isDigit (hdigits d List.mem_cons_self)
        rw [List.cons_append, Text.trimStart_cons hd] at h
        exact not_leaves_hour (List.cons_ne_nil d ds) hdigits hblank'' h

/-! ### Both orders agree -/

theorem naive?_eq_none_of_timestamp? {text : String} {millis : Int}
    (h : timestamp? (Text.trim text.toList) = some millis) : naive? text = none :=
  naive?_eq_none fun _ hf => not_leaves_of_timestampText hf (timestampText_of_timestamp? h)

theorem naive?_eq_none_of_mailDate? {text : String} {millis : Int}
    (h : mailDate? (Text.trim text.toList) = some millis) : naive? text = none := by
  have hmail := mailText_of_mailDate? h
  rw [Text.trimStart_eq_self (Text.head?_trim text.toList)] at hmail
  exact naive?_eq_none fun _ hf => not_leaves_of_mailText hf hmail

/-- Digits that count seconds or milliseconds. -/
def IsEpoch (cs : List Char) : Prop :=
  cs.all Char.isDigit = true ∧ (cs.length = 10 ∨ cs.length = 13)

theorem exists_epoch? {cs : List Char} (h : IsEpoch cs) : ∃ millis, epoch? cs = some millis := by
  obtain ⟨hdigits, hlength⟩ := h
  rw [epoch?, hdigits, Bool.not_true, if_neg Bool.false_ne_true]
  rcases hlength with hlength | hlength
  · exact ⟨_, if_pos hlength⟩
  · exact ⟨_, by rw [if_neg (by omega), if_pos hlength]⟩

theorem epoch?_eq_none {cs : List Char} (h : ¬ IsEpoch cs) : epoch? cs = none := by
  unfold epoch?
  split_ifs with hdigits hten hthirteen
  · rfl
  · exact absurd ⟨by simpa using hdigits, Or.inl hten⟩ h
  · exact absurd ⟨by simpa using hdigits, Or.inr hthirteen⟩ h
  · rfl

theorem naive?_of_nil {text : String} (h : Text.trim text.toList = []) : naive? text = none := by
  rw [naive?, h]
  rfl

/-- Moving an offset east moves what clocks show, fractions and inserted seconds included. -/
theorem millis_eq_sub (t : LocalTime) (offset : Int) :
    t.millis offset = t.millis 0 - 1000 * offset := by
  unfold LocalTime.millis LocalTime.instant
  omega

section

variable {now : Instant} {text offset : String} {seconds : Int}

theorem parse?_eq (hne : Text.trim text.toList ≠ []) :
    parse? now text = (epoch? (Text.trim text.toList)).or
      ((timestamp? (Text.trim text.toList)).or <| (mailDate? (Text.trim text.toList)).or <|
        match naive? text with
        | some t => some (t.millis 0)
        | none => loose? now 0 (Text.trim text.toList)) :=
  if_neg (by simpa using hne)

theorem parseAt?_eq (hoffset : offset? offset = some seconds) (hne : Text.trim text.toList ≠ []) :
    parseAt? now text (some offset) = (epoch? (Text.trim text.toList)).or
      (match naive? text with
        | some t => t.millis? seconds
        | none => (timestamp? (Text.trim text.toList)).or <|
          (mailDate? (Text.trim text.toList)).or
            (loose? now seconds (Text.trim text.toList))) := by
  rw [parseAt?, Option.bind_some, hoffset]
  exact if_neg (by simpa using hne)

theorem agree_of_epoch? (hoffset : offset? offset = some seconds) {millis : Int}
    (h : epoch? (Text.trim text.toList) = some millis) (now : Instant) :
    parse? now text = some millis ∧ parseAt? now text (some offset) = some millis := by
  have hne : Text.trim text.toList ≠ [] := by
    intro hnil
    rw [hnil] at h
    cases h
  rw [parse?_eq hne, parseAt?_eq hoffset hne, h]
  exact ⟨rfl, rfl⟩

theorem naive?_eq_none_of_zoned {millis : Int}
    (h : (timestamp? (Text.trim text.toList)).or (mailDate? (Text.trim text.toList)) =
      some millis) : naive? text = none := by
  cases hstamp : timestamp? (Text.trim text.toList) with
  | some stamp => exact naive?_eq_none_of_timestamp? hstamp
  | none =>
    rw [hstamp, Option.none_or] at h
    exact naive?_eq_none_of_mailDate? h

theorem agree_of_zoned (hoffset : offset? offset = some seconds)
    (hepoch : epoch? (Text.trim text.toList) = none) {millis : Int}
    (h : (timestamp? (Text.trim text.toList)).or (mailDate? (Text.trim text.toList)) =
      some millis) (now : Instant) :
    parse? now text = some millis ∧ parseAt? now text (some offset) = some millis := by
  have hne : Text.trim text.toList ≠ [] := by
    intro hnil
    rw [hnil] at h
    cases h
  rw [parse?_eq hne, parseAt?_eq hoffset hne, hepoch, naive?_eq_none_of_zoned h]
  simp [← Option.or_assoc, h]

/-- What names its own instant is read alike at every offset, and at every present. -/
theorem agree_of_instant (hoffset : offset? offset = some seconds)
    (h : IsEpoch (Text.trim text.toList) ∨ (timestamp? (Text.trim text.toList)).isSome = true ∨
      (mailDate? (Text.trim text.toList)).isSome = true) :
    ∃ millis, ∀ now : Instant,
      parse? now text = some millis ∧ parseAt? now text (some offset) = some millis := by
  cases hepoch : epoch? (Text.trim text.toList) with
  | some epoch => exact ⟨epoch, agree_of_epoch? hoffset hepoch⟩
  | none =>
    obtain ⟨millis, hmillis⟩ : ∃ millis,
        (timestamp? (Text.trim text.toList)).or (mailDate? (Text.trim text.toList)) =
          some millis := by
      rw [← Option.isSome_iff_exists, Option.isSome_or, Bool.or_eq_true]
      refine h.resolve_left fun hnumber => ?_
      obtain ⟨epoch, hsome⟩ := exists_epoch? hnumber
      cases hepoch.symm.trans hsome
    exact ⟨millis, agree_of_zoned hoffset hepoch hmillis⟩

/-- A naive time is read in UTC or at the offset, if it is in the calendar there. -/
theorem shifted_of_naive {t : LocalTime} (hoffset : offset? offset = some seconds)
    (ht : naive? text = some t) (hepoch : ¬ IsEpoch (Text.trim text.toList)) (now : Instant) :
    parse? now text = some (t.millis 0) ∧
      parseAt? now text (some offset) = t.millis? seconds := by
  have hne : Text.trim text.toList ≠ [] := by
    intro hnil
    rw [naive?_of_nil hnil] at ht
    cases ht
  have hzoned : (timestamp? (Text.trim text.toList)).or (mailDate? (Text.trim text.toList)) =
      none := by
    cases h : (timestamp? (Text.trim text.toList)).or (mailDate? (Text.trim text.toList)) with
    | none => rfl
    | some millis =>
      rw [naive?_eq_none_of_zoned h] at ht
      cases ht
  obtain ⟨hstamp, hmail⟩ := Option.or_eq_none_iff.mp hzoned
  rw [parse?_eq hne, parseAt?_eq hoffset hne, epoch?_eq_none hepoch, hstamp, hmail, ht]
  exact ⟨rfl, rfl⟩

end

/-- Reading at an offset and reading in UTC. What names its own instant has it at every offset; a
naive time moves by the offset, as far as the calendar goes; neither depends on the present. Without
an offset that can be read there is nothing to move by. -/
theorem parseAt?_agrees (text : String) :
    (∀ offset seconds, offset? offset = some seconds →
      (IsEpoch (Text.trim text.toList) ∨ (timestamp? (Text.trim text.toList)).isSome = true ∨
          (mailDate? (Text.trim text.toList)).isSome = true →
        ∃ millis, ∀ now : Instant,
          parse? now text = some millis ∧ parseAt? now text (some offset) = some millis) ∧
      (∀ t, naive? text = some t → ¬ IsEpoch (Text.trim text.toList) →
        ∃ millis, ∀ now : Instant, parse? now text = some millis ∧
          parseAt? now text (some offset) =
            if firstSecond ≤ t.instant seconds ∧ t.instant seconds ≤ lastSecond then
              some (millis - 1000 * seconds)
            else none)) ∧
    ∀ (now : Instant) (offset : Option String), offset.bind offset? = none →
      parseAt? now text offset = parse? now text := by
  refine ⟨fun offset seconds hoffset => ⟨agree_of_instant hoffset, fun t ht hepoch => ?_⟩,
    fun now offset hoffset => ?_⟩
  · refine ⟨t.millis 0, fun now => ?_⟩
    obtain ⟨hplain, hshifted⟩ := shifted_of_naive hoffset ht hepoch now
    refine ⟨hplain, ?_⟩
    rw [hshifted, LocalTime.millis?, millis_eq_sub t seconds]
  · rw [parseAt?, hoffset]

theorem parseAt?_agrees_west :
    parseAt? ⟨0, 0⟩ "2020-01-01T00:00:00+00:00" (some "-05:30") = some 1577836800000 ∧
    parseAt? ⟨0, 0⟩ " 2024/03/01 12:00 " (some "-05:30") = some 1709314200000 ∧
    parseAt? ⟨0, 0⟩ "2020-01-01" (some "west") = parse? ⟨0, 0⟩ "2020-01-01" := by
  have hoffset : offset? "-05:30" = some (-19800) := by decide +kernel
  refine ⟨?_, ?_, (parseAt?_agrees "2020-01-01").2 _ (some "west") (by decide +kernel)⟩
  · have hplain : parse? ⟨0, 0⟩ "2020-01-01T00:00:00+00:00" = some 1577836800000 := by
      decide +kernel
    obtain ⟨millis, hmillis⟩ :=
      ((parseAt?_agrees "2020-01-01T00:00:00+00:00").1 "-05:30" _ hoffset).1
        (Or.inr (Or.inl (by decide +kernel)))
    obtain ⟨hkept, hzoned⟩ := hmillis ⟨0, 0⟩
    rw [hzoned, ← hkept, hplain]
  · have hnaive : naive? " 2024/03/01 12:00 " = some ⟨⟨2024, 3, 1⟩, 43200, 0⟩ := by
      decide +kernel
    have hplain : parse? ⟨0, 0⟩ " 2024/03/01 12:00 " = some 1709294400000 := by decide +kernel
    have hepoch : ¬ IsEpoch (Text.trim " 2024/03/01 12:00 ".toList) := by
      rintro ⟨hdigits, -⟩
      revert hdigits
      decide +kernel
    obtain ⟨millis, hmillis⟩ :=
      ((parseAt?_agrees " 2024/03/01 12:00 ").1 "-05:30" _ hoffset).2 _ hnaive hepoch
    obtain ⟨hread, hshifted⟩ := hmillis ⟨0, 0⟩
    cases hplain.symm.trans hread
    rw [hshifted, if_pos (by decide +kernel)]
    rfl

end Gleaner.Moment
