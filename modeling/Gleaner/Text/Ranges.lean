import Gleaner.Text.Blank

/-!
Sets of characters as increasing closed ranges of code points, and their written form in the tables
of this library.
-/
namespace Gleaner.Text

/-- Increasing, disjoint closed ranges of code points. -/
abbrev Ranges := Array (Nat × Nat)

/-- The value of a hexadecimal digit. -/
def hexValue? (c : Char) : Option Nat :=
  if '0' ≤ c && c ≤ '9' then some (c.toNat - '0'.toNat)
  else if 'a' ≤ c && c ≤ 'f' then some (c.toNat - 'a'.toNat + 10)
  else if 'A' ≤ c && c ≤ 'F' then some (c.toNat - 'A'.toNat + 10)
  else none

/-- The number written by hexadecimal digits; other characters count as zero. -/
def hexNumber (cs : List Char) : Nat := cs.foldl (fun n c => 16 * n + (hexValue? c).getD 0) 0

/-- Splits at every character `c`. -/
def splitAtChar (c : Char) : List Char → List (List Char)
  | [] => [[]]
  | d :: ds =>
    if d = c then [] :: splitAtChar c ds
    else match splitAtChar c ds with
      | [] => [[d]]
      | run :: runs => (d :: run) :: runs

namespace Ranges

/-- Reads `gap-length` entries separated by blanks, all numbers hexadecimal. -/
def ofText (s : String) : Ranges :=
  let step := fun (acc : Array (Nat × Nat) × Nat) (entry : List Char) =>
    let gap := hexNumber (entry.takeWhile (· ≠ '-'))
    let more := hexNumber ((entry.dropWhile (· ≠ '-')).drop 1)
    let start := acc.2 + gap
    (acc.1.push (start, start + more), start + more + 1)
  ((words s.toList).foldl step (#[], 0)).1

/-- Bisection between the indices `lo` and `hi`; each step halves their distance. -/
def search (r : Ranges) (n : Nat) : Nat → Nat → Nat → Bool
  | 0, _, _ => false
  | fuel + 1, lo, hi =>
    if lo < hi then
      let mid := (lo + hi) / 2
      match r[mid]? with
      | none => false
      | some (a, b) =>
        if n < a then search r n fuel lo mid
        else if b < n then search r n fuel (mid + 1) hi
        else true
    else false

def contains (r : Ranges) (c : Char) : Bool := search r c.toNat (r.size.log2 + 2) 0 r.size

/-- Sorts ranges and joins those that touch. -/
def normal (rs : List (Nat × Nat)) : List (Nat × Nat) :=
  let sorted := (rs.filter fun r => r.1 ≤ r.2).mergeSort (fun a b => a.1 ≤ b.1)
  let join := fun (acc : List (Nat × Nat)) (r : Nat × Nat) =>
    match acc with
    | [] => [r]
    | (a, b) :: rest => if r.1 ≤ b + 1 then (a, max b r.2) :: rest else r :: acc
  (sorted.foldl join []).reverse

end Ranges

end Gleaner.Text
