import Gleaner.Calendar.Stamp
import Gleaner.Pattern.Search

/-!
Dates and times as people write them: month names, slashes, clock times with `am` and `pm`, zones by
name. A form has a shape, which is a pattern for the whole text, and formats that are tried in
order. Times without a zone are read at an offset that the caller gives; what a text leaves out, its
date, its year or its time of day, is that of the present.
-/
namespace Gleaner.Calendar

def numericDate (separator : Char) : Format :=
  [.year, .literal separator, .month, .literal separator, .day]

def minutes : Format := [.hour, .literal ':', .minute]

def seconds : Format := minutes ++ [.literal ':', .second]

def halfDayMinutes : Format := [.hour12, .literal ':', .minute, .space, .half]

def halfDaySeconds : Format :=
  [.hour12, .literal ':', .minute, .literal ':', .second, .space, .half]

/-- A date format with each of the given time formats after a space. -/
def withTimes (date : Format) (times : List Format) : List Format :=
  times.map fun t => date ++ .space :: t

/-- Where a form takes its offset from. -/
inductive ZoneSource where
  /-- The caller. -/
  | given
  /-- An offset that the format reads. -/
  | format
  /-- The name or offset in the first group of the shape. -/
  | group
  deriving DecidableEq

/-- What the formats of a form tell. The rest is taken from the present. -/
inductive Told where
  | all
  | date
  | time
  deriving DecidableEq

structure Form where
  shape : Pattern.Expr
  source : ZoneSource
  told : Told := .all
  formats : List Format
  /-- Changes to the text before it is read, at a present and an offset. -/
  tidy : Instant → Int → List Char → List Char := fun _ _ => id

/-- What a form makes of a text. A zone that cannot be read ends the search for a form. -/
inductive Attempt where
  | other
  | refused
  | found (millis : Int)

/-- Replaces every occurrence of a text that is not empty. -/
def replaceAll (old new : List Char) : (fuel : Nat) → List Char → List Char
  | 0, cs => cs
  | fuel + 1, cs =>
    match cs with
    | [] => []
    | c :: rest =>
      if old.isPrefixOf cs then new ++ replaceAll old new fuel (cs.drop old.length)
      else c :: replaceAll old new fuel rest

def replaced (old new : String) (cs : List Char) : List Char :=
  replaceAll old.toList new.toList (cs.length + 1) cs

def mathZone : ZoneStyle :=
  ⟨false, false, false, fun cs => some (cs.dropWhile fun c => c = ':' || Text.isBlank c)⟩

/-- The offset that a zone written after a time stands for; unknown names stand for UTC. -/
def namedZone? (cs : List Char) : Option Int :=
  let name := cs.takeWhile Char.isAlpha
  let offset :=
    if cs.contains ':' then (zone? mathZone cs).map Prod.fst
    else if name.isEmpty then (zone? ⟨false, false, false, some⟩ cs).map Prod.fst
    else
      let word := String.ofList (name.map Char.toLower)
      some (if word = "z" then 0 else (zoneHours.lookup word).getD 0 * 3600)
  offset.filter isOffset

/-- The time that a text told of, with what it left out as it is at present. -/
def Parts.completed? (p : Parts) (present : LocalTime) : Told → Option LocalTime
  | .all => p.localTime?
  | .date => p.date?.map fun d => { present with date := d }
  | .time => p.time?.map fun (s, n) => { present with second := s, nanos := n }

/-- What the first format makes of a text that gives a time, read at an offset. -/
def Form.millisAt? (f : Form) (now : Instant) (offset : Int) (cs : List Char) : Option Int :=
  let time := f.formats.findSome? fun format =>
    (format.parse? (f.tidy now offset cs)).bind (Parts.completed? · (now.shown offset) f.told)
  time.bind (LocalTime.millis? · offset)

/-- The same for formats that read the offset themselves. -/
def Form.instantMillis? (f : Form) (now : Instant) (offset : Int) (cs : List Char) : Option Int :=
  let parts := f.formats.findSome? fun format =>
    (format.parse? (f.tidy now offset cs)).filter fun p => p.localTime?.isSome
  parts.bind Parts.instantMillis?

def Attempt.ofOption : Option Int → Attempt
  | some ms => .found ms
  | none => .other

def Form.try (f : Form) (pattern : Pattern.Compiled) (now : Instant) (offset : Int)
    (cs : List Char) : Attempt :=
  match pattern.search cs with
  | none => .other
  | some slots =>
    match f.source with
    | .given => .ofOption (f.millisAt? now offset cs)
    | .format => .ofOption (f.instantMillis? now offset cs)
    | .group =>
      match namedZone? (Text.trim ((Pattern.groupText? cs slots 1).getD [])) with
      | none => .refused
      | some zone => .ofOption (f.millisAt? now zone cs)

namespace Shape

open Pattern (Expr)

def char (c : Char) : Expr := .set (Pattern.CharSet.ofChar c)

def text (s : String) : Expr := .sequence (s.toList.map char)

def optional (e : Expr) : Expr := .times 0 (some 1) true e

def digits (least most : Nat) : Expr := .times least (some most) true (.set Text.decimalDigits)

def blanks (least : Nat) : Expr := .times least none true (.set (Pattern.blankSet true))

def letters (least most : Nat) : Expr :=
  .times least (some most) true (.set [(0x41, 0x5a), (0x61, 0x7a)])

def word : Expr := letters 3 9

def comma : Expr := optional (char ',')

/-- A clock time with or without seconds. -/
def clock (hourDigits : Nat) : Expr :=
  .sequence [digits hourDigits 2, char ':', digits 2 2,
    optional (.sequence [char ':', digits 2 2])]

def fraction : Expr := optional (.sequence [char '.', digits 1 9])

def half : Expr :=
  .sequence [blanks 0, optional (.choice [text "am", text "pm", text "AM", text "PM"])]

/-- Three to six signs, points, colons and digits, and letters if `letters`. -/
def zone (letters : Bool) : Expr :=
  .times 3 (some 6) true
    (.set ((0x2b, 0x3a) :: if letters then [(0x41, 0x5a), (0x61, 0x7a)] else []))

def whole (es : List Expr) : Expr :=
  .sequence (.look .textStart :: es ++ [.look .textEnd])

def dashedDate : Expr :=
  .sequence [digits 4 4, char '-', digits 2 2, char '-', digits 2 2]

/-- Digits, any character, and digits again, anywhere in the text. -/
def dotted : Expr :=
  .sequence [digits 1 4, .set (Text.complement [(10, 10)]), digits 1 4, digits 1 4]

end Shape

/-- Commas and points after words are passed over. -/
def unpunctuated : Instant → Int → List Char → List Char := fun _ _ cs =>
  replaced ". " " " (replaced ", " " " cs)

/-- The year of the present stands in front. -/
def withYear : Instant → Int → List Char → List Char := fun now offset cs =>
  (toString (now.shown offset).date.year).toList ++ ' ' :: cs

/-- The day of the present in UTC stands behind. -/
def withDay : Instant → Int → List Char → List Char := fun now _ cs =>
  cs ++ '.' :: (toString (now.shown 0).date.day).toList

open Shape in
/-- The forms in the order in which they are tried. -/
def forms : List Form := [
  { shape := whole [dashedDate, blanks 1, clock 2, Shape.fraction, zone false]
    source := .format
    formats := withTimes (numericDate '-')
      [seconds ++ [.zone], seconds ++ [.fraction, .zone], minutes ++ [.zone]] },
  { shape := whole [dashedDate, blanks 1, clock 1, Shape.fraction, Shape.half]
    source := .given
    formats := withTimes (numericDate '-')
      [seconds, minutes, seconds ++ [.fraction], halfDaySeconds, halfDayMinutes] },
  { shape := whole [dashedDate, blanks 1, clock 1, Shape.fraction,
      .group 1 (.sequence [blanks 0, zone true])]
    source := .group
    formats := withTimes (numericDate '-')
      [seconds ++ [.space, .zoneName], minutes ++ [.space, .zoneName],
        seconds ++ [.fraction, .space, .zoneName]] },
  { shape := whole [dashedDate]
    source := .given
    told := .date
    formats := [numericDate '-'] },
  { shape := whole [dashedDate, .group 1 (.sequence [blanks 0, zone true])]
    source := .group
    told := .date
    formats := [numericDate '-' ++ [.space, .zoneName]] },
  { shape := whole [clock 1, Shape.half]
    source := .given
    told := .time
    formats := [seconds, minutes, halfDaySeconds, halfDayMinutes] },
  { shape := whole [clock 1, Shape.half, .group 1 (.sequence [blanks 1, zone true])]
    source := .group
    told := .time
    formats := [seconds, minutes, halfDaySeconds, halfDayMinutes].map (· ++ [.space, .zoneName]) },
  { shape := whole [digits 4 4, char '-', word, char '-', digits 2 2]
    source := .given
    told := .date
    formats := [numericDate '-',
      [.year, .literal '-', .monthAbbreviation, .literal '-', .day]] },
  { shape := whole [letters 3 3, blanks 1, digits 1 2, blanks 0, optional (text "at"), blanks 1,
      clock 1, Shape.half]
    source := .given
    formats := [
      [.year, .space, .monthAbbreviation, .space, .day, .space, .literal 'a', .literal 't',
        .space] ++ halfDayMinutes,
      [.year, .space, .monthAbbreviation, .space, .day, .space] ++ seconds]
    tidy := withYear },
  { shape := whole [word, optional (char '.'), blanks 1, digits 1 2, char ',', blanks 1,
      digits 2 4, comma, blanks 1, clock 1, Shape.half]
    source := .given
    formats := withTimes [.monthName, .space, .day, .space, .year]
      [seconds, minutes, halfDaySeconds, halfDayMinutes]
    tidy := unpunctuated },
  { shape := whole [word, blanks 1, digits 1 2, comma, blanks 1, digits 4 4, blanks 0, comma,
      optional (text "at"), blanks 1, clock 2, Shape.half,
      .group 1 (.sequence [blanks 1, zone true])]
    source := .group
    formats := withTimes [.monthName, .space, .day, .space, .year]
      ([seconds, minutes, halfDaySeconds, halfDayMinutes].map (· ++ [.space, .zoneName]))
    tidy := fun _ _ cs => replaced "at" "" (replaced "," "" cs) },
  { shape := whole [word, optional (char '.'), blanks 1, digits 1 2, char ',', blanks 1,
      digits 2 4]
    source := .given
    told := .date
    formats := [[.monthName, .space, .day, .space, .shortYear],
      [.monthName, .space, .day, .space, .year]]
    tidy := unpunctuated },
  { shape := whole [digits 1 2, blanks 1, word, blanks 1, digits 2 4, comma, blanks 1, clock 1,
      Shape.fraction]
    source := .given
    formats := withTimes [.day, .space, .monthName, .space, .year]
      [seconds, minutes, seconds ++ [.fraction], halfDaySeconds, halfDayMinutes]
    tidy := fun _ _ => replaced ", " " " },
  { shape := whole [digits 1 2, blanks 1, word, blanks 1, digits 2 4]
    source := .given
    told := .date
    formats := [[.day, .space, .monthName, .space, .shortYear],
      [.day, .space, .monthName, .space, .year]] },
  { shape := whole [digits 1 2, char '/', digits 1 2, char '/', digits 2 4, blanks 1, clock 1,
      Shape.fraction, Shape.half]
    source := .given
    formats := ([.shortYear, .year] : List Item).flatMap fun y =>
      withTimes [.month, .literal '/', .day, .literal '/', y]
        [seconds, minutes, seconds ++ [.fraction], halfDaySeconds, halfDayMinutes] },
  { shape := whole [digits 1 2, char '/', digits 1 2, char '/', digits 2 4]
    source := .given
    told := .date
    formats := ([.shortYear, .year] : List Item).map fun y =>
      [.month, .literal '/', .day, .literal '/', y] },
  { shape := whole [digits 4 4, char '/', digits 1 2, char '/', digits 1 2, blanks 1, clock 1,
      Shape.fraction, Shape.half]
    source := .given
    formats := withTimes (numericDate '/')
      [seconds, minutes, seconds ++ [.fraction], halfDaySeconds, halfDayMinutes] },
  { shape := whole [digits 4 4, char '/', digits 1 2, char '/', digits 1 2]
    source := .given
    told := .date
    formats := [numericDate '/'] },
  { shape := dotted
    source := .given
    told := .date
    formats := [[.month, .literal '.', .day, .literal '.', .shortYear],
      [.month, .literal '.', .day, .literal '.', .year], numericDate '.'] },
  { shape := dotted
    source := .given
    told := .date
    formats := [numericDate '.']
    tidy := withDay },
  { shape :=
      .sequence [digits 6 6, blanks 1, digits 2 2, char ':', digits 2 2, char ':', digits 2 2]
    source := .given
    formats := withTimes [.shortYear, .month, .day] [seconds] },
  { shape := whole [digits 4 4, char '年', digits 2 2, char '月', digits 2 2, char '日', digits 2 2,
      char '时', digits 2 2, char '分', digits 2 2, char '秒']
    source := .given
    formats := [[.year, .literal '年', .month, .literal '月', .day, .literal '日', .hour,
      .literal '时', .minute, .literal '分', .second, .literal '秒']] },
  { shape := whole [digits 4 4, char '年', digits 2 2, char '月', digits 2 2, char '日']
    source := .given
    told := .date
    formats := [[.year, .literal '年', .month, .literal '月', .day, .literal '日']] }]

/-- The forms with their shapes made ready. -/
def compiledForms : List (Form × Pattern.Compiled) :=
  forms.filterMap fun f => (Pattern.Compiled.ofExpr? f.shape 1).map fun c => (f, c)

/-- Nineteen digits count nanoseconds since the start of 1970. -/
def nanosecondEpoch? (cs : List Char) : Option Int :=
  if cs.length = 19 ∧ cs.all Char.isDigit then
    let n := Decimal.digitsValue cs
    if n < Nat.pow 2 63 then some (n / 1000000 : Nat) else none
  else none

def tryForms (now : Instant) (offset : Int) (cs : List Char) :
    List (Form × Pattern.Compiled) → Option Int
  | [] => none
  | (f, c) :: rest =>
    match f.try c now offset cs with
    | .found ms => some ms
    | .refused => none
    | .other => tryForms now offset cs rest

/-- Milliseconds since the start of 1970 for a text in any of the forms, read at an offset of so
many seconds east of UTC unless it names a zone. -/
def loose? (now : Instant) (offset : Int) (cs : List Char) : Option Int :=
  (nanosecondEpoch? cs).or (tryForms now offset cs compiledForms)

end Gleaner.Calendar
