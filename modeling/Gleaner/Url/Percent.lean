import Gleaner.Charset.Utf8
import Gleaner.Text.Ranges

/-!
Percent encoding, and the form encoding of query pairs.
-/
namespace Gleaner.Url

def upperHexDigit (n : Nat) : Char := (Nat.digitChar n).toUpper

def percentByte (b : Nat) : List Char := ['%', upperHexDigit (b / 16), upperHexDigit (b % 16)]

def percentChar (c : Char) : List Char := (Utf8.encodeChar c).flatMap percentByte

/-- Controls and everything beyond ASCII, which no part of an address holds unencoded. -/
def isControl (c : Char) : Bool := c.toNat < 0x20 || 0x7e < c.toNat

/-- Encodes controls, everything beyond ASCII, and the characters of a set. -/
def percentEncode (set : List Char) (cs : List Char) : List Char :=
  cs.flatMap fun c => if isControl c || set.contains c then percentChar c else [c]

/-- The bytes that a text stands for; a percent sign without two digits stands for itself. -/
def percentDecode : List Char → List Nat
  | '%' :: a :: b :: rest =>
    match Text.hexValue? a, Text.hexValue? b with
    | some m, some n => (16 * m + n) :: percentDecode rest
    | _, _ => 0x25 :: percentDecode (a :: b :: rest)
  | c :: rest => Utf8.encodeChar c ++ percentDecode rest
  | [] => []

/-- What stands unencoded in a form besides letters and digits. -/
def isFormSafe (b : Nat) : Bool :=
  (0x30 ≤ b && b ≤ 0x39) || (0x41 ≤ b && b ≤ 0x5a) || (0x61 ≤ b && b ≤ 0x7a) ||
    b = 0x2a || b = 0x2d || b = 0x2e || b = 0x5f

def formByte (b : Nat) : List Char :=
  if isFormSafe b then [Char.ofNat b] else if b = 0x20 then ['+'] else percentByte b

def formEncode (cs : List Char) : List Char := (Utf8.encode cs).flatMap formByte

def formDecode (cs : List Char) : List Char :=
  Utf8.decode (percentDecode (cs.map fun c => if c = '+' then ' ' else c))

def formPair (p : String × String) : List Char :=
  formEncode p.1.toList ++ '=' :: formEncode p.2.toList

/-- Pairs joined by `&`. -/
def formText : List (String × String) → List Char
  | [] => []
  | [p] => formPair p
  | p :: q :: ps => formPair p ++ '&' :: formText (q :: ps)

/-- One piece of a query as a pair; without an equals sign its value is empty. -/
def pairOf (piece : List Char) : String × String :=
  (String.ofList (formDecode (piece.takeWhile (· ≠ '='))),
    String.ofList (formDecode ((piece.dropWhile (· ≠ '=')).drop 1)))

/-- The pairs of a query; empty pieces do not count. -/
def formPairs (query : List Char) : List (String × String) :=
  ((Text.splitAtChar '&' query).filter fun piece => !piece.isEmpty).map pairOf

end Gleaner.Url
