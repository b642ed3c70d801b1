import Gleaner.Text.Category
import Gleaner.Text.CaseTable

/-!
Letter case. Lowercasing and uppercasing use the full maps, so that one character may become
several; folding uses the simple map, under which two characters are equal ignoring case. On ASCII
all of them are the familiar maps (`lowerChar_of_ascii`, `foldChar_of_ascii`).
-/
namespace Gleaner.Text

def CaseRun.stop (r : CaseRun) : Nat := r.start + (r.count - 1) * r.step

def CaseRun.image? (r : CaseRun) (n : Nat) : Option Nat :=
  if r.start ≤ n && n ≤ r.stop && (n - r.start) % r.step == 0 then
    some (Int.ofNat n + r.shift).toNat
  else none

/-- The last index below `hi` whose run starts at `n` or before, found by bisection. -/
def lastStart (runs : Array CaseRun) (n : Nat) : Nat → Nat → Nat → Nat
  | 0, lo, _ => lo
  | fuel + 1, lo, hi =>
    if lo + 1 < hi then
      let mid := (lo + hi) / 2
      match runs[mid]? with
      | none => lo
      | some r => if r.start ≤ n then lastStart runs n fuel mid hi else lastStart runs n fuel lo mid
    else lo

/-- Looks a character up among the runs that start shortly before it. -/
def shifted? (runs : Array CaseRun) (n : Nat) : Option Nat :=
  let last := lastStart runs n (runs.size.log2 + 2) 0 runs.size
  (List.range 9).findSome? fun back =>
    if back ≤ last then (runs[last - back]?).bind (·.image? n) else none

def lowerTable : Array CaseRun := lowerRuns.toArray

def upperTable : Array CaseRun := upperRuns.toArray

def foldTable : Array CaseRun := foldRuns.toArray

def shiftedChar (runs : Array CaseRun) (c : Char) : Char :=
  ((shifted? runs c.toNat).map Char.ofNat).getD c

def lowerChar (c : Char) : List Char :=
  if c.toNat < 128 then [c.toLower]
  else match lowerLong.lookup c.toNat with
    | some image => image.map Char.ofNat
    | none => [shiftedChar lowerTable c]

def upperChar (c : Char) : List Char :=
  if c.toNat < 128 then [c.toUpper]
  else match upperLong.lookup c.toNat with
    | some image => image.map Char.ofNat
    | none => [shiftedChar upperTable c]

/-- The simple case folding of one character. -/
def foldChar (c : Char) : Char :=
  if c.toNat < 128 then c.toLower else shiftedChar foldTable c

def casedRanges : Ranges := propertyRanges "Cased"

def caseIgnorable : Ranges := propertyRanges "Case_Ignorable"

/-- Whether a cased character comes next once the case-ignorable ones are passed over. -/
def casedAhead (cs : List Char) : Bool :=
  match (cs.dropWhile caseIgnorable.contains).head? with
  | some c => casedRanges.contains c
  | none => false

/-- Lowercases; `before` holds what was passed, nearest first. A capital sigma that ends a word
becomes the final small sigma. -/
def lowerFrom : (before : List Char) → List Char → List Char
  | _, [] => []
  | before, c :: cs =>
    (if c == 'Σ' then [if casedAhead before && !casedAhead cs then 'ς' else 'σ']
      else lowerChar c) ++ lowerFrom (c :: before) cs

def lower (s : String) : String := String.ofList (lowerFrom [] s.toList)

def upper (s : String) : String := String.ofList (s.toList.flatMap upperChar)

def asciiLower (s : String) : String := String.ofList (s.toList.map Char.toLower)

def asciiUpper (s : String) : String := String.ofList (s.toList.map Char.toUpper)

theorem lowerChar_of_ascii {c : Char} (h : c.toNat < 128) : lowerChar c = [c.toLower] := by
  simp [lowerChar, h]

theorem foldChar_of_ascii {c : Char} (h : c.toNat < 128) : foldChar c = c.toLower := by
  simp [foldChar, h]

end Gleaner.Text
