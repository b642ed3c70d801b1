import Gleaner.Text.Blank
import Gleaner.Text.Category
import Gleaner.Text.Case

/-!
Pieces of text that the unit readers share: digits of any script, numbers with thousands separators,
and the search for the first place where something can be read.
-/
namespace Gleaner.Scan

/-- The characters of a set at the start of a text, and the rest. -/
def spanning (p : Char → Bool) (cs : List Char) : List Char × List Char :=
  (cs.takeWhile p, cs.dropWhile p)

/-- A point with at least one digit after it, else nothing. -/
def fraction : List Char → List Char × List Char
  | '.' :: cs =>
    let (ds, rest) := spanning Text.isDecimalDigit cs
    if ds.isEmpty then ([], '.' :: cs) else ('.' :: ds, rest)
  | cs => ([], cs)

/-- A number as printed in running text: a digit with digits and commas after it and perhaps a
fraction, or a fraction alone. -/
def grouped? (cs : List Char) : Option (List Char × List Char) :=
  match cs with
  | c :: rest =>
    if Text.isDecimalDigit c then
      let (more, rest) := spanning (fun d => Text.isDecimalDigit d || d = ',') rest
      let (part, rest) := fraction rest
      some (c :: more ++ part, rest)
    else
      let (part, rest) := fraction (c :: rest)
      if part.isEmpty then none else some (part, rest)
  | [] => none

/-- What can be read at the first place of the text where anything can. -/
def first? {α : Type} (read? : List Char → Option α) : List Char → Option α
  | [] => read? []
  | c :: cs =>
    match read? (c :: cs) with
    | some a => some a
    | none => first? read? cs

def withoutCommas (cs : List Char) : List Char := cs.filter (· ≠ ',')

end Gleaner.Scan
