import Gleaner.Units.Scan
import Gleaner.Decimal.Read
import Gleaner.Calendar.Date

/-!
Ages such as `2 days 3 hours`: quantities of calendar units in any order and in several languages,
counted back from a given instant. For each unit the first quantity counts, and units are subtracted
from the longest to the shortest. A subtraction that would leave the calendar is left out.
-/
namespace Gleaner

inductive CalendarUnit where
  | year
  | quarter
  | month
  | week
  | day
  | hour
  | minute
  | second
  deriving DecidableEq, Repr

namespace CalendarUnit

/-- All units, in the order in which they are subtracted. -/
def all : List CalendarUnit := [year, quarter, month, week, day, hour, minute, second]

/-- The words for each unit. -/
def tokens : CalendarUnit → List String
  | year => ["year", "years", "yr", "yrs", "y", "年"]
  | quarter => ["quarter", "quarters", "季", "季度"]
  | month => ["month", "months", "mo", "mos", "月", "个月"]
  | week => ["week", "weeks", "wk", "wks", "w", "周", "星期"]
  | day => ["day", "days", "d", "天", "日"]
  | hour => ["hour", "hours", "hr", "hrs", "h", "时", "小时"]
  | minute => ["minute", "minutes", "min", "mins", "m", "分", "分钟"]
  | second => ["second", "seconds", "sec", "secs", "s", "秒"]

/-- The vocabulary: every word with its unit. -/
def vocabulary : List (List Char × CalendarUnit) :=
  all.flatMap fun u => u.tokens.map fun t => (t.toList, u)

/-- Of the words that the text starts with, the longest. -/
def longestStart (text : List Char) : Option (List Char × CalendarUnit) :=
  (vocabulary.filter fun w => w.1.isPrefixOf text).foldl
    (fun best w => match best with
      | some b => if b.1.length < w.1.length then some w else some b
      | none => some w)
    none

/-- The unit a word stands for. A word of another script than ASCII may go on after the unit. -/
def ofToken? (token : String) : Option CalendarUnit :=
  let word := (Text.lower token).toList
  match vocabulary.lookup word with
  | some u => some u
  | none =>
    match word with
    | c :: _ => if c.toNat < 128 then none else (longestStart word).map Prod.snd
    | [] => none

/-- Months in a unit that has no fixed length. -/
def months : CalendarUnit → Option Nat
  | year => some 12
  | quarter => some 3
  | month => some 1
  | _ => none

/-- Seconds in a unit of fixed length. -/
def seconds : CalendarUnit → Nat
  | week => 604800
  | day => 86400
  | hour => 3600
  | minute => 60
  | second => 1
  | _ => 0

/-- The longest span of time, in whole seconds: its milliseconds have to fit in 64 bits. -/
def mostSeconds : Nat := 9223372036854775

/-- The most months that one subtraction moves by. -/
def mostMonths : Nat := 2147483647

/-- How far a quantity goes back: months, counted in 32 bits up to the greatest number of them, or a
span of time. -/
inductive Stretch where
  | months (n : Nat)
  | seconds (n : Nat)
  deriving DecidableEq, Repr

/-- The stretch of so many units; none for a span that is too long, which is a fault. -/
def stretch? (u : CalendarUnit) (n : Nat) : Option Stretch :=
  match u.months with
  | some k => some (.months (min (n * k) (UInt32.size - 1)))
  | none => if n * u.seconds ≤ mostSeconds then some (.seconds (n * u.seconds)) else none

/-- The instant at the start of a stretch that ends now, if the calendar goes back that far. -/
def Stretch.back? (now : Calendar.Instant) : Stretch → Option Calendar.Instant
  | .months n => if n ≤ mostMonths then now.monthsBack? n else none
  | .seconds n => now.secondsBack? n

end CalendarUnit

namespace Duration

/-- A number of units. -/
structure Quantity where
  count : Nat
  unit : CalendarUnit

def isLatin (c : Char) : Bool := c.isAlpha

/-- A quantity as written: digits, blanks, and a word in Chinese characters or Latin letters; and
the text after it. -/
def written? (cs : List Char) : Option ((List Char × List Char) × List Char) :=
  let (digits, rest) := Scan.spanning Text.isDecimalDigit cs
  if digits.isEmpty then none
  else
    let rest := rest.dropWhile Text.isBlank
    let (han, after) := Scan.spanning Text.isHan rest
    if !han.isEmpty then some ((digits, han), after)
    else
      let (latin, after) := Scan.spanning isLatin rest
      if !latin.isEmpty then some ((digits, latin), after) else none

/-- The quantities written in a text, from left to right. -/
def allWritten : (fuel : Nat) → List Char → List (List Char × List Char)
  | 0, _ => []
  | fuel + 1, cs =>
    match written? cs with
    | some (q, rest) => q :: allWritten fuel rest
    | none =>
      match cs with
      | _ :: rest => allWritten fuel rest
      | [] => []

/-- A known unit with a count of 32 bits. -/
def quantity? (w : List Char × List Char) : Option Quantity :=
  match CalendarUnit.ofToken? (String.ofList w.2), Decimal.natural? UInt32.size w.1 with
  | some u, some n => some ⟨n, u⟩
  | _, _ => none

/-- What is written as a quantity in a text, of whatever unit and count. -/
def allWrittenIn (text : String) : List (List Char × List Char) :=
  allWritten (text.toList.length + 1) text.toList

def quantities (text : String) : List Quantity := (allWrittenIn text).filterMap quantity?

/-- The first quantity of a unit. -/
def firstOf (u : CalendarUnit) (qs : List Quantity) : Option Nat :=
  (qs.find? fun q => q.unit = u).map Quantity.count

/-- Goes back by the quantity of one unit, if there is one and the calendar allows it. -/
def step? (qs : List Quantity) (instant : Calendar.Instant) (u : CalendarUnit) :
    Option Calendar.Instant :=
  match firstOf u qs with
  | some n => (u.stretch? n).map fun s => (s.back? instant).getD instant
  | none => some instant

/-- Goes back by all quantities; none after a fault. -/
def back? (qs : List Quantity) (now : Calendar.Instant) : Option Calendar.Instant :=
  CalendarUnit.all.foldlM (step? qs) now

/-- The instant that lies as far before `now` as the text says. -/
def rewind? (text : String) (now : Calendar.Instant) : Option Calendar.Instant :=
  back? (quantities text) now

/-- The second that lies as far before `now` as the text says. -/
def before (text : String) (now : Int) : Int :=
  ((rewind? text ⟨now, 0⟩).map Calendar.Instant.second).getD now

end Duration

end Gleaner
