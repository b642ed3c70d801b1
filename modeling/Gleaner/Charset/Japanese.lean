import Gleaner.Charset.DoubleByte
import Gleaner.Charset.Jis0212Table
import Gleaner.Charset.ShiftJisTable

/-!
Charsets of Japanese: Shift_JIS, EUC-JP and ISO-2022-JP. All three write the characters of
JIS X 0208 by their numbers. ISO-2022-JP is ASCII with escapes, which switch between sets of characters.
-/
namespace Gleaner.Charset

/-- The character of a number in JIS X 0208. The rows of Shift_JIS have 188 of them each. -/
def jis0208Char? (n : Nat) : Option Char := tableChar? shiftJisRows (n / 188) (n % 188)

/-- The narrow kana, from the first of them on. -/
def narrowKana (n : Nat) : Char := Char.ofNat (0xff61 + n)

/-- The row of a first byte of Shift_JIS. -/
def shiftJisRow? (a : Nat) : Option Nat :=
  if 0x81 ≤ a && a ≤ 0x9f then some (a - 0x81)
  else if 0xe0 ≤ a && a ≤ 0xfc then some (a - 0xc1)
  else none

def shiftJisPairs : Pairs where
  single? a :=
    if a ≤ 0x80 then some (Char.ofNat a)
    else if 0xa1 ≤ a && a ≤ 0xdf then some (narrowKana (a - 0xa1))
    else none
  isLead a := (shiftJisRow? a).isSome
  pair? a b := (shiftJisRow? a).bind fun row =>
    ((column? 0xfc b).bind (tableChar? shiftJisRows row)).map ([·])

def isEucByte (b : Nat) : Bool := 0xa1 ≤ b && b ≤ 0xfe

/-- The character of a pair of EUC-JP; after 8E it is a narrow kana. -/
def eucJpChar? (a b : Nat) : Option Char :=
  if a = 0x8e then if 0xa1 ≤ b && b ≤ 0xdf then some (narrowKana (b - 0xa1)) else none
  else if isEucByte a && isEucByte b then jis0208Char? ((a - 0xa1) * 94 + (b - 0xa1))
  else none

/-- The character of a pair that stands after 8F. -/
def jis0212Char? (a b : Nat) : Option Char :=
  if isEucByte b then tableChar? jis0212Rows (a - 0xa1) (b - 0xa1) else none

def decodeEucJp : List Nat → List Char
  | [] => []
  | a :: rest =>
    if a < 0x80 then Char.ofNat a :: decodeEucJp rest
    else if a ≠ 0x8e && a ≠ 0x8f && !isEucByte a then Utf8.replacement :: decodeEucJp rest
    else match rest with
      | [] => [Utf8.replacement]
      | b :: rest₂ =>
        if b < 0x80 then Utf8.replacement :: decodeEucJp (b :: rest₂)
        else if a = 0x8f && isEucByte b then
          match rest₂ with
          | [] => [Utf8.replacement]
          | c :: rest₃ =>
            if c < 0x80 then Utf8.replacement :: decodeEucJp (c :: rest₃)
            else (jis0212Char? b c).getD Utf8.replacement :: decodeEucJp rest₃
        else (eucJpChar? a b).getD Utf8.replacement :: decodeEucJp rest₂

/-- The sets of characters that escapes of ISO-2022-JP switch to. -/
inductive JisSet where
  | ascii
  | roman
  | kana
  | kanji
  deriving DecidableEq

namespace JisSet

/-- The set that the two bytes after an escape name. -/
def named? : Nat → Nat → Option JisSet
  | 0x28, 0x42 => some ascii
  | 0x28, 0x4a => some roman
  | 0x28, 0x49 => some kana
  | 0x24, 0x40 => some kanji
  | 0x24, 0x42 => some kanji
  | _, _ => none

/-- ASCII without the two bytes that shift. -/
def unshifted? (a : Nat) : Option Char := if a = 0x0e || a = 0x0f then none else ascii? a

/-- The character that a byte makes by itself. -/
def char? : JisSet → Nat → Option Char
  | ascii, a => unshifted? a
  | roman, a => if a = 0x5c then some '¥' else if a = 0x7e then some '‾' else unshifted? a
  | kana, a => if 0x21 ≤ a && a ≤ 0x5f then some (narrowKana (a - 0x21)) else none
  | kanji, _ => none

/-- Whether a byte is half of a character of kanji. -/
def isHalf (b : Nat) : Bool := 0x21 ≤ b && b ≤ 0x7e

/-- Reads bytes in a set; `escaped` when an escape came last. What is malformed reads as `none`, and
so does an escape right after another. -/
def read : (set : JisSet) → (escaped : Bool) → List Nat → List (Option Char)
  | _, _, [] => []
  | set, escaped, a :: rest =>
    if a = 0x1b then
      match rest with
      | b :: c :: rest₃ =>
        match named? b c with
        | some next => if escaped then none :: read next true rest₃ else read next true rest₃
        | none => none :: read set false (b :: c :: rest₃)
      | rest => none :: read set false rest
    else if set = kanji && isHalf a then
      match rest with
      | [] => [none]
      | b :: rest₂ =>
        if isHalf b then
          jis0208Char? ((a - 0x21) * 94 + (b - 0x21)) :: read set false rest₂
        else if b = 0x1b then none :: read set false (b :: rest₂)
        else none :: read set false rest₂
    else set.char? a :: read set false rest

end JisSet

def decodeIso2022Jp (bs : List Nat) : List Char :=
  (JisSet.read .ascii false bs).map (·.getD Utf8.replacement)

/-- Whether bytes show that they are ISO-2022-JP: there are escapes in ASCII, and what starts at the
byte before the first of them is well-formed. -/
def isIso2022Jp (bs : List Nat) : Bool :=
  bs.contains 0x1b && bs.all (· < 0x80) &&
    (JisSet.read .ascii false (bs.drop ((bs.takeWhile (· ≠ 0x1b)).length - 1))).all Option.isSome

end Gleaner.Charset
