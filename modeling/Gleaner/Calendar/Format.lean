import Gleaner.Calendar.Date
import Gleaner.Text.Blank
import Gleaner.Decimal.Read

/-!
Reading dates and times by a format, which is a list of items. A space in a format stands for any
number of blanks, also none; numbers may have blanks before them and fewer digits than usual.
-/
namespace Gleaner.Calendar

inductive Item where
  | literal (c : Char)
  | space
  /-- Four digits at most, or any number of them after a sign. -/
  | year
  /-- Two digits, of 1970 to 2069. -/
  | shortYear
  | month
  | day
  | hour
  /-- An hour from 1 to 12, which needs `half`. -/
  | hour12
  | minute
  /-- A second from 0 to 60, 60 standing for an inserted one. -/
  | second
  /-- A point and digits, or nothing. -/
  | fraction
  /-- The first three letters of a month's name. -/
  | monthAbbreviation
  /-- The same, or the whole name. -/
  | monthName
  /-- `am` or `pm`, in any case. -/
  | half
  /-- The characters up to the next blank, whatever they are. -/
  | zoneName
  /-- Hours and perhaps minutes east of UTC, or `Z`. -/
  | zone
  deriving DecidableEq, Repr

/-- What a text said about a time. -/
structure Parts where
  year : Option Int := none
  shortYear : Option Nat := none
  month : Option Nat := none
  day : Option Nat := none
  hour : Option Nat := none
  hour12 : Option Nat := none
  afternoon : Option Bool := none
  minute : Option Nat := none
  second : Option Nat := none
  nanos : Option Nat := none
  offset : Option Int := none
  /-- The day of the week, Monday being 0. -/
  weekday : Option Nat := none

/-- A number of at least `least` and at most `most` digits. -/
def digits? (least most : Nat) (cs : List Char) : Option (Nat × List Char) :=
  let ds := (cs.take most).takeWhile Char.isDigit
  if ds.length < least then none else some (Decimal.digitsValue ds, cs.drop ds.length)

/-- A number in a range, after blanks, of one or two digits. -/
def field? (low high : Nat) (cs : List Char) : Option (Nat × List Char) :=
  match digits? 1 2 (Text.trimStart cs) with
  | some (n, rest) => if low ≤ n ∧ n ≤ high then some (n, rest) else none
  | none => none

/-- The years that a signed number of 32 bits can hold. -/
def isYear (n : Int) : Bool := -2147483648 ≤ n && n ≤ 2147483647

def year? (cs : List Char) : Option (Int × List Char) :=
  let read : Option (Int × List Char) := match Text.trimStart cs with
    | '-' :: ds => (digits? 1 ds.length ds).map fun r => (-(r.1 : Int), r.2)
    | '+' :: ds => (digits? 1 ds.length ds).map fun r => ((r.1 : Int), r.2)
    | ds => (digits? 1 4 ds).map fun r => ((r.1 : Int), r.2)
  read.filter fun r => isYear r.1

/-- Digits after a point, as nanoseconds; what is finer is passed over. -/
def nanos? (cs : List Char) : Option (Nat × List Char) :=
  let ds := cs.takeWhile Char.isDigit
  let nine := ds.take 9
  if ds.isEmpty then none
  else some (Decimal.digitsValue nine * Nat.pow 10 (9 - nine.length), cs.drop ds.length)

def monthStarts : List (List Char) :=
  ["jan", "feb", "mar", "apr", "may", "jun", "jul", "aug", "sep", "oct", "nov", "dec"].map
    String.toList

/-- The rest of each month's name. -/
def monthEnds : List (List Char) :=
  ["uary", "ruary", "ch", "il", "", "e", "y", "ust", "tember", "ober", "ember", "ember"].map
    String.toList

/-- Whether a text starts with a lowercase word, ignoring case. -/
def startsWith (word cs : List Char) : Bool := (cs.take word.length).map Char.toLower == word

def monthAbbreviation? (cs : List Char) : Option (Nat × List Char) :=
  (monthStarts.findIdx? fun w => startsWith w cs).map fun i => (i + 1, cs.drop 3)

def monthName? (cs : List Char) : Option (Nat × List Char) :=
  (monthAbbreviation? cs).map fun (m, rest) =>
    let word := (monthEnds[m - 1]?).getD []
    (m, if startsWith word rest then rest.drop word.length else rest)

/-- Two digits. -/
def twoDigits? (cs : List Char) : Option (Nat × List Char) := digits? 2 2 cs

/-- How an offset from UTC may be written. -/
structure ZoneStyle where
  /-- `Z` for UTC. -/
  zulu : Bool
  /-- Hours alone. -/
  hoursOnly : Bool
  /-- The mathematical minus sign. -/
  minusSign : Bool
  /-- What stands between hours and minutes. -/
  separator : List Char → Option (List Char)

/-- Two digits with the first below 6; or, if that is allowed, nothing at the end of the text. -/
def zoneMinutes? (hoursOnly : Bool) (cs : List Char) : Option (Nat × List Char) :=
  match cs with
  | a :: b :: rest =>
    if '0' ≤ a && a ≤ '5' && b.isDigit then some (Decimal.digitsValue [a, b], rest) else none
  | [_] => none
  | [] => if hoursOnly then some (0, []) else none

/-- An offset in seconds east of UTC. -/
def zone? (style : ZoneStyle) (cs : List Char) : Option (Int × List Char) :=
  let signed := fun (negative : Bool) (cs : List Char) =>
    match twoDigits? cs with
    | none => none
    | some (hours, rest) =>
      match (style.separator rest).bind (zoneMinutes? style.hoursOnly) with
      | none => none
      | some (minutes, rest) =>
        let seconds : Int := hours * 3600 + minutes * 60
        some (if negative then -seconds else seconds, rest)
  match cs with
  | '+' :: rest => signed false rest
  | '-' :: rest => signed true rest
  | '−' :: rest => if style.minusSign then signed true rest else none
  | c :: rest => if style.zulu && (c = 'Z' || c = 'z') then some (0, rest) else none
  | [] => none

/-- Colons and blanks in any number between hours and minutes, which may also be missing. -/
def looseZone : ZoneStyle :=
  ⟨true, true, true, fun cs => some (cs.dropWhile fun c => c = ':' || Text.isBlank c)⟩

/-- Reads one item at the start of a text. -/
def Item.read? (i : Item) (p : Parts) (cs : List Char) : Option (Parts × List Char) :=
  match i with
  | .literal c =>
    match cs with
    | d :: rest => if c = d then some (p, rest) else none
    | [] => none
  | .space => some (p, Text.trimStart cs)
  | .year => (year? cs).map fun r => ({ p with year := r.1 }, r.2)
  | .shortYear => (field? 0 99 cs).map fun r => ({ p with shortYear := r.1 }, r.2)
  | .month => (field? 1 12 cs).map fun r => ({ p with month := r.1 }, r.2)
  | .day => (field? 1 31 cs).map fun r => ({ p with day := r.1 }, r.2)
  | .hour => (field? 0 23 cs).map fun r => ({ p with hour := r.1 }, r.2)
  | .hour12 => (field? 1 12 cs).map fun r => ({ p with hour12 := some (r.1 % 12) }, r.2)
  | .minute => (field? 0 59 cs).map fun r => ({ p with minute := r.1 }, r.2)
  | .second => (field? 0 60 cs).map fun r => ({ p with second := r.1 }, r.2)
  | .fraction =>
    match cs with
    | '.' :: rest => (nanos? rest).map fun r => ({ p with nanos := r.1 }, r.2)
    | _ => some (p, cs)
  | .monthAbbreviation => (monthAbbreviation? cs).map fun r => ({ p with month := r.1 }, r.2)
  | .monthName => (monthName? cs).map fun r => ({ p with month := r.1 }, r.2)
  | .half =>
    if startsWith ['a', 'm'] cs then some ({ p with afternoon := false }, cs.drop 2)
    else if startsWith ['p', 'm'] cs then some ({ p with afternoon := true }, cs.drop 2)
    else none
  | .zoneName => some (p, cs.dropWhile fun c => !Text.isBlank c)
  | .zone => (zone? looseZone (Text.trimStart cs)).map fun r => ({ p with offset := r.1 }, r.2)

abbrev Format := List Item

/-- Reads the items one after another. -/
def Format.read? : Format → Parts → List Char → Option (Parts × List Char)
  | [], p, cs => some (p, cs)
  | i :: is, p, cs =>
    match i.read? p cs with
    | some (p, rest) => Format.read? is p rest
    | none => none

/-- Reads a whole text. -/
def Format.parse? (f : Format) (cs : List Char) : Option Parts :=
  match f.read? {} cs with
  | some (p, []) => some p
  | _ => none

namespace Parts

def fullYear? (p : Parts) : Option Int :=
  match p.year, p.shortYear with
  | some y, _ => some y
  | none, some y => some (if y < 70 then 2000 + y else 1900 + y)
  | none, none => none

/-- The date, if it exists and its day of the week is the one given. -/
def date? (p : Parts) : Option Date :=
  match p.fullYear?, p.month, p.day with
  | some y, some m, some d =>
    (Date.ofParts? y m d).filter fun date => p.weekday.all (· = date.weekday)
  | _, _, _ => none

def hour? (p : Parts) : Option Nat :=
  match p.hour, p.hour12, p.afternoon with
  | some h, _, _ => some h
  | none, some h, some pm => some (if pm then h + 12 else h)
  | none, _, _ => none

/-- The time of day in seconds and nanoseconds. -/
def time? (p : Parts) : Option (Nat × Nat) :=
  match p.hour?, p.minute with
  | some h, some m =>
    let s := p.second.getD 0
    let n := p.nanos.getD 0
    if s = 60 then some (h * 3600 + m * 60 + 59, n + 1000000000)
    else some (h * 3600 + m * 60 + s, n)
  | _, _ => none

def localTime? (p : Parts) : Option LocalTime :=
  match p.date?, p.time? with
  | some d, some (s, n) => some ⟨d, s, n⟩
  | _, _ => none

/-- A date alone, read as its midnight. -/
def midnight? (p : Parts) : Option LocalTime := p.date?.map fun d => ⟨d, 0, 0⟩

end Parts

/-- The instant, in milliseconds, at which clocks `offset` seconds east of UTC show a time, unless
the date it then is in UTC is outside the calendar. -/
def LocalTime.millis? (t : LocalTime) (offset : Int) : Option Int :=
  let i := t.instant offset
  if firstSecond ≤ i ∧ i ≤ lastSecond then some (t.millis offset) else none

end Gleaner.Calendar
