import Gleaner.Text.Blank
import Gleaner.Text.Ranges

/-!
Cloaked e-mail addresses: hexadecimal bytes, the first of which is a key that was added to every
other one bit by bit.
-/
namespace Gleaner.Cloak

/-- The byte that two characters write; a plus sign may stand before a single digit. -/
def byte? (a b : Char) : Option Nat :=
  match Text.hexValue? b with
  | none => none
  | some low => if a = '+' then some low else (Text.hexValue? a).map fun high => 16 * high + low

/-- The bytes written by pairs of characters. -/
def bytes? : List Char → Option (List Nat)
  | [] => some []
  | [_] => none
  | a :: b :: rest =>
    match byte? a b, bytes? rest with
    | some n, some ns => some (n :: ns)
    | _, _ => none

/-- The bytes after the key, uncovered, each a character of the same code. -/
def uncover : List Nat → List Char
  | [] => []
  | key :: bytes => bytes.map fun b => Char.ofNat (b ^^^ key)

/-- The address behind a cloaked text; empty if the text is malformed. -/
def decode (text : String) : String :=
  match bytes? (Text.trim text.toList) with
  | some bytes => String.ofList (uncover bytes)
  | none => ""

end Gleaner.Cloak
