import Gleaner.Units.Scan
import Gleaner.Decimal.Read

/-!
Numbers in text: a whole text with thousands separators, the first number in running text, and the
number that a text starts with.
-/
namespace Gleaner.Number

def parseChars (cs : List Char) : Float :=
  (Decimal.float? (Scan.withoutCommas (Text.trim cs))).getD 0.0

/-- The number that is the whole text, commas passed over; 0 if it is none. -/
def parse (text : String) : Float := parseChars text.toList

/-- A number in running text, with the sign that stands directly before it. -/
def token? : List Char → Option (List Char)
  | '-' :: cs => (Scan.grouped? cs).map fun r => '-' :: r.1
  | cs => (Scan.grouped? cs).map Prod.fst

/-- The first number in running text; 0 without one. -/
def find (text : String) : Float :=
  match Scan.first? token? text.toList with
  | some token => parseChars token
  | none => 0.0

/-- An exponent at the start of a text, if it is complete. -/
def exponent (cs : List Char) : List Char :=
  match cs with
  | c :: rest =>
    if c = 'e' || c = 'E' then
      let (sign, rest) := match rest with
        | '+' :: r => (['+'], r)
        | '-' :: r => (['-'], r)
        | r => ([], r)
      let digits := rest.takeWhile Text.isDecimalDigit
      if digits.isEmpty then [] else c :: sign ++ digits
    else []
  | [] => []

/-- Digits with an optional point and more digits, or a point with digits. -/
def mantissa? (cs : List Char) : Option (List Char × List Char) :=
  let (whole, rest) := Scan.spanning Text.isDecimalDigit cs
  match whole, rest with
  | [], '.' :: rest =>
    let (part, rest) := Scan.spanning Text.isDecimalDigit rest
    if part.isEmpty then none else some ('.' :: part, rest)
  | [], _ => none
  | whole, '.' :: rest =>
    let (part, rest) := Scan.spanning Text.isDecimalDigit rest
    some (whole ++ '.' :: part, rest)
  | whole, rest => some (whole, rest)

/-- The number at the start of a text, after blanks and a sign. -/
def leading? (cs : List Char) : Option (List Char) :=
  let (sign, rest) := match Text.trimStart cs with
    | '-' :: r => (['-'], r)
    | '+' :: r => (['+'], r)
    | r => ([], r)
  (mantissa? rest).map fun r => sign ++ r.1 ++ exponent r.2

/-- The value of the number that a text starts with; 0 without one. -/
def leading (text : String) : Float := ((leading? text.toList).bind Decimal.float?).getD 0.0

/-- The integer part of a number, toward zero: what its bits write behind the point is cleared.
Below 1 only the sign is left, and from `2 ^ 52` on there is nothing behind the point. -/
def truncate (x : Float) : Float :=
  let bits := x.toBits.toNat
  let biased := bits / Nat.pow 2 52 % Nat.pow 2 11
  if biased < 1023 then Float.ofBits (UInt64.ofNat (bits / Nat.pow 2 63 * Nat.pow 2 63))
  else if biased < 1075 then
    let fraction := Nat.pow 2 (1075 - biased)
    Float.ofBits (UInt64.ofNat (bits / fraction * fraction))
  else x

end Gleaner.Number
