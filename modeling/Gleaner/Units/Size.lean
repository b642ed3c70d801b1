import Gleaner.Units.Scan
import Gleaner.Decimal.Read

/-!
Byte sizes such as `1.5 GiB`. Every unit scales by a power of 1024, with or without the `i` and the
`B`; a bare number counts bytes.
-/
namespace Gleaner.Size

/-- Unit letters, each 1024 times the one before it. -/
def letters : List Char := ['K', 'M', 'G', 'T', 'P', 'E', 'Z']

/-- Equality of one character with a lowercase letter, ignoring case. -/
def isLetter (letter : Char) (c : Char) : Bool := Text.foldChar c = letter

def isUnitLetter (c : Char) : Bool := letters.any fun u => isLetter u.toLower c

/-- Nothing, or one plural `s`. -/
def isPlural : List Char → Bool
  | [] => true
  | [c] => isLetter 's' c
  | _ => false

/-- What may follow a unit letter: `B` or `iB` or neither, and a plural. -/
def isLetterTail : List Char → Bool
  | [] => true
  | c :: cs =>
    isPlural (c :: cs) || (isLetter 'b' c && isPlural cs) ||
      match cs with
      | d :: ds => isLetter 'i' c && isLetter 'b' d && isPlural ds
      | [] => false

/-- The unit that is the whole text: `some none` without a letter. -/
def unit? : List Char → Option (Option Char)
  | [] => some none
  | c :: cs =>
    if isUnitLetter c && isLetterTail cs then some (some c)
    else if isLetter 'b' c && isPlural cs then some none
    else if isPlural (c :: cs) then some none
    else none

/-- The power of 1024 that a unit letter stands for; only ASCII letters stand for one. -/
def power (letter : Char) : Nat := (letters.findIdx? (· = letter.toUpper)).elim 0 (· + 1)

/-- Digits with an optional fraction, or a fraction alone. -/
def magnitude? (cs : List Char) : Option (List Char × List Char) :=
  let (whole, rest) := Scan.spanning Text.isDecimalDigit cs
  let (part, rest) := Scan.fraction rest
  if whole.isEmpty && part.isEmpty then none else some (whole ++ part, rest)

/-- The digits and the unit of a size that is the whole text. -/
def parts? (cs : List Char) : Option (List Char × Option Char) := do
  let (digits, rest) ← magnitude? cs
  let unit ← unit? (rest.dropWhile Text.isBlank)
  pure (digits, unit)

/-- `1024 ^ k` -/
def scale (k : Nat) : Float := Float.ofNat (Nat.pow 1024 k)

def parseChars (cs : List Char) : Float :=
  match parts? (Scan.withoutCommas (Text.trim cs)) with
  | none => 0.0
  | some (digits, unit) =>
    match Decimal.float? digits with
    | none => 0.0
    | some x => x * scale (unit.elim 0 power)

/-- The number of bytes; 0 for a text that is no size. Commas are passed over. -/
def parse (text : String) : Float := parseChars text.toList

/-- The end of a size in running text: an optional unit letter, its optional `i`, and `B`. -/
def unitToken? : List Char → Option (List Char × List Char)
  | a :: rest =>
    if isLetter 'b' a then some ([a], rest)
    else if isUnitLetter a then
      match rest with
      | b :: rest =>
        if isLetter 'b' b then some ([a, b], rest)
        else if isLetter 'i' b then
          match rest with
          | c :: rest => if isLetter 'b' c then some ([a, b, c], rest) else none
          | [] => none
        else none
      | [] => none
    else none
  | [] => none

/-- A size with its unit at the start of a text. -/
def token? (cs : List Char) : Option (List Char) := do
  let (digits, rest) ← Scan.grouped? cs
  let (blanks, rest) := Scan.spanning Text.isBlank rest
  let (unit, _) ← unitToken? rest
  pure (digits ++ blanks ++ unit)

/-- The first size in running text, in bytes; 0 without one. -/
def find (text : String) : Float :=
  match Scan.first? token? text.toList with
  | some token => parseChars token
  | none => 0.0

end Gleaner.Size
