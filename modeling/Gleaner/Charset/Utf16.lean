import Gleaner.Charset.Utf8

/-!
UTF-16. A surrogate without its partner decodes to the replacement character, and so does what is
left when the bytes end within a character.
-/
namespace Gleaner.Utf16

def isHighSurrogate (unit : Nat) : Bool := 0xd800 ≤ unit && unit < 0xdc00

def isLowSurrogate (unit : Nat) : Bool := 0xdc00 ≤ unit && unit < 0xe000

def pairChar (high low : Nat) : Char :=
  Char.ofNat (0x10000 + (high - 0xd800) * 0x400 + (low - 0xdc00))

/-- Decodes bytes in the given order; `high` is a high surrogate that waits for its partner. -/
def decodeFrom (bigEndian : Bool) : (high : Option Nat) → List Nat → List Char
  | none, [] => []
  | some _, [] => [Utf8.replacement]
  | _, [_] => [Utf8.replacement]
  | high, a :: b :: rest =>
    let unit := if bigEndian then 256 * a + b else 256 * b + a
    match high with
    | some h =>
      if isLowSurrogate unit then pairChar h unit :: decodeFrom bigEndian none rest
      else if isHighSurrogate unit then Utf8.replacement :: decodeFrom bigEndian (some unit) rest
      else Utf8.replacement :: Char.ofNat unit :: decodeFrom bigEndian none rest
    | none =>
      if isHighSurrogate unit then decodeFrom bigEndian (some unit) rest
      else if isLowSurrogate unit then Utf8.replacement :: decodeFrom bigEndian none rest
      else Char.ofNat unit :: decodeFrom bigEndian none rest

def decode (bigEndian : Bool) (bs : List Nat) : List Char := decodeFrom bigEndian none bs

end Gleaner.Utf16
