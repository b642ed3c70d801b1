import Gleaner.Calendar.Loose

/-!
Points in time as sites print them, in milliseconds since the start of 1970. What names its own zone
keeps it; a time without one is read in UTC, or at the offset of the site. The present tells what a
free form leaves out.
-/
namespace Gleaner.Moment

/-- The naive forms of a date with a time, in the order in which they are tried. -/
def naiveFormats : List Calendar.Format := [
  [.year, .literal '-', .month, .literal '-', .day, .space, .hour, .literal ':', .minute,
    .literal ':', .second],
  [.year, .literal '-', .month, .literal '-', .day, .literal 'T', .hour, .literal ':', .minute,
    .literal ':', .second],
  [.year, .literal '-', .month, .literal '-', .day, .space, .hour, .literal ':', .minute,
    .literal ':', .second, .fraction],
  [.year, .literal '-', .month, .literal '-', .day, .literal 'T', .hour, .literal ':', .minute,
    .literal ':', .second, .fraction],
  [.year, .literal '-', .month, .literal '-', .day, .space, .hour, .literal ':', .minute],
  [.year, .literal '/', .month, .literal '/', .day, .space, .hour, .literal ':', .minute,
    .literal ':', .second],
  [.year, .literal '/', .month, .literal '/', .day, .space, .hour, .literal ':', .minute],
  [.day, .space, .monthAbbreviation, .space, .year, .space, .hour, .literal ':', .minute,
    .literal ':', .second],
  [.monthAbbreviation, .space, .day, .space, .year, .literal ',', .space, .hour, .literal ':',
    .minute]]

/-- The naive forms of a date alone. -/
def dateFormats : List Calendar.Format := [
  [.year, .literal '-', .month, .literal '-', .day],
  [.year, .literal '/', .month, .literal '/', .day]]

/-- A date and time without a zone; a date alone is its midnight. -/
def naive? (text : String) : Option Calendar.LocalTime :=
  let cs := Text.trim text.toList
  (naiveFormats.findSome? fun f => (f.parse? cs).bind Calendar.Parts.localTime?).or
    (dateFormats.findSome? fun f => (f.parse? cs).bind Calendar.Parts.midnight?)

/-- An offset such as `+0800`, `-05:30` or `Z`, in seconds east of UTC. -/
def offset? (text : String) : Option Int :=
  let cs := Text.trim text.toList
  let word := cs.map Char.toLower
  if word = ['z'] ∨ word = ['u', 't', 'c'] then some 0
  else
    match cs with
    | sign :: rest =>
      if sign ≠ '+' ∧ sign ≠ '-' then none
      else
        match Calendar.twoDigits? rest with
        | none => none
        | some (hours, rest) =>
          let rest := match rest with
            | ':' :: r => r
            | r => r
          match Calendar.twoDigits? rest with
          | some (minutes, []) =>
            let seconds : Int := hours * 3600 + minutes * 60
            if seconds < 86400 then some (if sign = '-' then -seconds else seconds) else none
          | _ => none
    | [] => none

/-- Ten digits count seconds and thirteen count milliseconds. -/
def epoch? (cs : List Char) : Option Int :=
  if !cs.all Char.isDigit then none
  else if cs.length = 10 then some (Decimal.digitsValue cs * 1000)
  else if cs.length = 13 then some (Decimal.digitsValue cs)
  else none

/-- The instant that a text names, read in UTC unless it has a zone. -/
def parse? (now : Calendar.Instant) (text : String) : Option Int :=
  let cs := Text.trim text.toList
  if cs.isEmpty then none
  else
    (epoch? cs).or <| (Calendar.timestamp? cs).or <| (Calendar.mailDate? cs).or <|
      match naive? text with
      | some t => some (t.millis 0)
      | none => Calendar.loose? now 0 cs

/-- The instant that a text names, read at an offset unless it has a zone. An offset that is missing
or cannot be read is that of UTC. -/
def parseAt? (now : Calendar.Instant) (text : String) (offset : Option String) : Option Int :=
  match offset.bind offset? with
  | none => parse? now text
  | some seconds =>
    let cs := Text.trim text.toList
    if cs.isEmpty then none
    else
      (epoch? cs).or <|
        match naive? text with
        | some t => t.millis? seconds
        | none =>
          (Calendar.timestamp? cs).or <| (Calendar.mailDate? cs).or
            (Calendar.loose? now seconds cs)

end Gleaner.Moment
