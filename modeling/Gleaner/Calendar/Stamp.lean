import Gleaner.Calendar.Format

/-!
Two standard forms of a date and time with its zone: the one of Internet timestamps, such as
`2020-01-01T00:00:00+08:00`, and the one of mail headers, such as `Wed, 02 Jun 2021 06:31:39 GMT`.
Both give milliseconds since the start of 1970.
-/
namespace Gleaner.Calendar

/-- An offset must be less than a day. -/
def isOffset (seconds : Int) : Bool := -86400 < seconds && seconds < 86400

def Parts.instantMillis? (p : Parts) : Option Int :=
  match p.localTime?, p.offset with
  | some t, some offset => if isOffset offset then t.millis? offset else none
  | _, _ => none

def expect (c : Char) : List Char → Option (List Char)
  | d :: rest => if c = d then some rest else none
  | [] => none

def inRange (low high n : Nat) : Option Nat := if low ≤ n ∧ n ≤ high then some n else none

/-- Hours and minutes with a colon between them, or `Z`. -/
def timestampZone : ZoneStyle := ⟨true, false, true, expect ':'⟩

/-- A timestamp with every field at its full width. -/
def timestamp? (cs : List Char) : Option Int := do
  let (year, cs) ← digits? 4 4 cs
  let cs ← expect '-' cs
  let (month, cs) ← twoDigits? cs
  let month ← inRange 1 12 month
  let cs ← expect '-' cs
  let (day, cs) ← twoDigits? cs
  let day ← inRange 1 31 day
  let cs ← match cs with
    | 'T' :: rest | 't' :: rest | ' ' :: rest => some rest
    | _ => none
  let (hour, cs) ← twoDigits? cs
  let hour ← inRange 0 23 hour
  let cs ← expect ':' cs
  let (minute, cs) ← twoDigits? cs
  let minute ← inRange 0 59 minute
  let cs ← expect ':' cs
  let (second, cs) ← twoDigits? cs
  let second ← inRange 0 60 second
  let (nanos, cs) ← match cs with
    | '.' :: rest => nanos? rest
    | rest => some (0, rest)
  let (offset, cs) ← zone? timestampZone cs
  if cs.isEmpty then
    Parts.instantMillis? {
      year := some (year : Int), month, day, hour, minute, second, nanos, offset }
  else none

def weekdayStarts : List (List Char) :=
  ["mon", "tue", "wed", "thu", "fri", "sat", "sun"].map String.toList

/-- At least one blank. -/
def someBlanks? : List Char → Option (List Char)
  | c :: rest => if Text.isBlank c then some (Text.trimStart rest) else none
  | [] => none

/-- Zones by name, in hours east of UTC. -/
def zoneHours : List (String × Int) := [
  ("gmt", 0), ("ut", 0), ("z", 0), ("edt", -4), ("est", -5), ("cdt", -5), ("cst", -6), ("mdt", -6),
  ("mst", -7), ("pdt", -7), ("pst", -8)]

/-- A zone of a mail header: a name, a military letter, which says nothing, or four digits. -/
def mailZone? (cs : List Char) : Option (Int × List Char) :=
  let name := cs.takeWhile Char.isAlpha
  let rest := cs.dropWhile Char.isAlpha
  if name.isEmpty then zone? ⟨false, false, false, some⟩ cs
  else
    match zoneHours.lookup (String.ofList (name.map Char.toLower)) with
    | some hours => some (hours * 3600, rest)
    | none =>
      match name with
      | [c] => if c.toLower = 'j' then none else some (0, rest)
      | _ => none

/-- The end of a comment, `depth` parentheses deep. -/
def commentEnd? : (depth : Nat) → List Char → Option (List Char)
  | _, [] => none
  | depth, ')' :: rest => if depth ≤ 1 then some rest else commentEnd? (depth - 1) rest
  | depth, '(' :: rest => commentEnd? (depth + 1) rest
  | depth, '\\' :: _ :: rest => commentEnd? depth rest
  | _, ['\\'] => none
  | depth, _ :: rest => commentEnd? depth rest

/-- Passes over comments in parentheses. -/
def passComments : (fuel : Nat) → List Char → List Char
  | 0, cs => cs
  | fuel + 1, cs =>
    match Text.trimStart cs with
    | '(' :: rest =>
      match commentEnd? 1 rest with
      | some rest => passComments fuel rest
      | none => cs
    | _ => cs

/-- A year of two or three digits counts from 1900, or from 2000 up to 2049. -/
def mailYear (digits n : Nat) : Int :=
  if digits = 2 then if n < 50 then 2000 + n else 1900 + n
  else if digits = 3 then 1900 + n
  else n

/-- The date of a mail header. A day of the week must be the right one. -/
def mailDate? (cs : List Char) : Option Int := do
  let cs := Text.trimStart cs
  let (weekday, cs) ← (match weekdayStarts.findIdx? fun w => startsWith w cs with
    | some i => (expect ',' (cs.drop 3)).map fun rest => (some i, rest)
    | none => some (none, cs) : Option (Option Nat × List Char))
  let (day, cs) ← digits? 1 2 (Text.trimStart cs)
  let day ← inRange 1 31 day
  let cs ← someBlanks? cs
  let (month, cs) ← monthAbbreviation? cs
  let cs ← someBlanks? cs
  let (n, rest) ← digits? 2 cs.length cs
  let year := mailYear (cs.length - rest.length) n
  let cs ← someBlanks? rest
  let (hour, cs) ← twoDigits? cs
  let hour ← inRange 0 23 hour
  let cs ← expect ':' (Text.trimStart cs)
  let (minute, cs) ← twoDigits? (Text.trimStart cs)
  let minute ← inRange 0 59 minute
  let (second, cs) ← match Text.trimStart cs with
    | ':' :: rest => twoDigits? rest
    | _ => some (0, cs)
  let second ← inRange 0 60 second
  let cs ← someBlanks? cs
  let (offset, cs) ← mailZone? cs
  if (passComments (cs.length + 1) cs).isEmpty then
    Parts.instantMillis? { year, month, day, hour, minute, second, offset, weekday }
  else none

end Gleaner.Calendar
