/-!
Dates of the proleptic Gregorian calendar and instants in seconds from the start of 1970 in UTC. The
calendar runs from the first day of year -262143 to the last day of year 262142.
-/
namespace Gleaner.Calendar

def firstYear : Int := -262143

def lastYear : Int := 262142

def isLeap (year : Int) : Bool := year % 4 == 0 && (year % 100 != 0 || year % 400 == 0)

def monthDays (year : Int) (month : Nat) : Nat :=
  match month with
  | 1 | 3 | 5 | 7 | 8 | 10 | 12 => 31
  | 4 | 6 | 9 | 11 => 30
  | 2 => if isLeap year then 29 else 28
  | _ => 0

structure Date where
  year : Int
  month : Nat
  day : Nat
  deriving DecidableEq, Repr

namespace Date

/-- The date with the given parts, if there is one. -/
def ofParts? (year : Int) (month day : Nat) : Option Date :=
  if firstYear ≤ year ∧ year ≤ lastYear ∧ 1 ≤ day ∧ day ≤ monthDays year month then
    some ⟨year, month, day⟩
  else none

/-- Days since 1970-01-01. Years are counted from March, so that a leap day ends its year. -/
def toDays (d : Date) : Int :=
  let y := if d.month ≤ 2 then d.year - 1 else d.year
  let era := y.fdiv 400
  let yearOfEra := y - era * 400
  let fromMarch : Int := (d.month + 9) % 12
  let dayOfYear := (153 * fromMarch + 2) / 5 + d.day - 1
  let dayOfEra := yearOfEra * 365 + yearOfEra / 4 - yearOfEra / 100 + dayOfYear
  era * 146097 + dayOfEra - 719468

/-- The date so many days after 1970-01-01. -/
def ofDays (days : Int) : Date :=
  let z := days + 719468
  let era := z.fdiv 146097
  let dayOfEra := z - era * 146097
  let yearOfEra := (dayOfEra - dayOfEra / 1460 + dayOfEra / 36524 - dayOfEra / 146096) / 365
  let dayOfYear := dayOfEra - (365 * yearOfEra + yearOfEra / 4 - yearOfEra / 100)
  let fromMarch := (5 * dayOfYear + 2) / 153
  let day := dayOfYear - (153 * fromMarch + 2) / 5 + 1
  let month := if fromMarch < 10 then fromMarch + 3 else fromMarch - 9
  let year := yearOfEra + era * 400
  ⟨if month ≤ 2 then year + 1 else year, month.toNat, day.toNat⟩

/-- Moves a date by whole months; a day that the new month lacks becomes its last day. -/
def addMonths? (d : Date) (months : Int) : Option Date :=
  let total := d.year * 12 + d.month - 1 + months
  let year := total.fdiv 12
  let month := (total - year * 12).toNat + 1
  ofParts? year month (min d.day (monthDays year month))

/-- The day of the week, Monday being 0. -/
def weekday (d : Date) : Nat := ((d.toDays + 3) % 7).toNat

end Date

/-- The seconds of a day. -/
def daySeconds : Int := 86400

/-- The earliest and the latest second of the calendar. -/
def firstSecond : Int := Date.toDays ⟨firstYear, 1, 1⟩ * daySeconds

def lastSecond : Int := Date.toDays ⟨lastYear, 12, 31⟩ * daySeconds + (daySeconds - 1)

/-- An instant moved by seconds, unless that leaves the calendar. -/
def addSeconds? (instant seconds : Int) : Option Int :=
  let moved := instant + seconds
  if firstSecond ≤ moved ∧ moved ≤ lastSecond then some moved else none

/-- An instant moved by whole months, the time of day kept. -/
def addMonths? (instant months : Int) : Option Int :=
  let days := instant.fdiv daySeconds
  let time := instant - days * daySeconds
  ((Date.ofDays days).addMonths? months).map fun d => d.toDays * daySeconds + time

/-- A point in time: a second and what has passed of it. Nanoseconds from a thousand million on
stand for a second that was inserted after the one named. -/
structure Instant where
  second : Int
  nanos : Nat
  deriving DecidableEq, Repr

namespace Instant

/-- So many seconds earlier, if the calendar goes back that far. The way out of an inserted second
leads over the second that follows it. -/
def secondsBack? (i : Instant) (n : Nat) : Option Instant :=
  if 0 < n ∧ 1000000000 ≤ i.nanos then
    (addSeconds? (i.second + 1) (-n)).map fun s => ⟨s, i.nanos - 1000000000⟩
  else (addSeconds? i.second (-n)).map fun s => ⟨s, i.nanos⟩

/-- So many months earlier, if the calendar goes back that far. -/
def monthsBack? (i : Instant) (n : Nat) : Option Instant :=
  (addMonths? i.second (-n)).map fun s => ⟨s, i.nanos⟩

end Instant

/-- A wall-clock time without a zone. Nanoseconds from a thousand million on stand for a second that
was inserted after the one named. -/
structure LocalTime where
  date : Date
  second : Nat
  nanos : Nat
  deriving DecidableEq, Repr

/-- The instant at which clocks `offset` seconds east of UTC show the time. -/
def LocalTime.instant (t : LocalTime) (offset : Int) : Int :=
  t.date.toDays * daySeconds + t.second - offset

/-- The same in milliseconds. -/
def LocalTime.millis (t : LocalTime) (offset : Int) : Int :=
  t.instant offset * 1000 + (t.nanos / 1000000 : Nat)

/-- What clocks `offset` seconds east of UTC show at an instant. -/
def Instant.shown (i : Instant) (offset : Int) : LocalTime :=
  let days := (i.second + offset).fdiv daySeconds
  ⟨.ofDays days, (i.second + offset - days * daySeconds).toNat, i.nanos⟩

end Gleaner.Calendar
