import Gleaner.Text.Ranges
import Gleaner.Text.ComposeTable

/-!
Canonical composition: a text with its characters taken apart, their marks put into canonical order,
and everything that composes put together again.
-/
namespace Gleaner.Text

/-- Entries of hexadecimal code points joined by points; the first one of an entry is the distance
from the entry before it. -/
def codeEntries (s : String) : List (Nat × List Nat) :=
  let step := fun (acc : List (Nat × List Nat) × Nat) (entry : List Char) =>
    match (splitAtChar '.' entry).map hexNumber with
    | gap :: image => ((acc.2 + gap, image) :: acc.1, acc.2 + gap)
    | [] => acc
  ((words s.toList).foldl step ([], 0)).1.reverse

/-- Bisection for a key between two indices of an array that increases by key. -/
def searchKey {α : Type} (entries : Array (Nat × α)) (key : Nat) : Nat → Nat → Nat → Option α
  | 0, _, _ => none
  | fuel + 1, lo, hi =>
    if lo < hi then
      let mid := (lo + hi) / 2
      match entries[mid]? with
      | none => none
      | some (k, v) =>
        if key < k then searchKey entries key fuel lo mid
        else if k < key then searchKey entries key fuel (mid + 1) hi
        else some v
    else none

def lookupKey {α : Type} (entries : Array (Nat × α)) (key : Nat) : Option α :=
  searchKey entries key (entries.size.log2 + 2) 0 entries.size

def decompositions : Array (Nat × List Nat) := (codeEntries decompositionText).toArray

/-- The composites by first and second character, which stand in one number. -/
def composites : Array (Nat × Nat) :=
  let pairs := (codeEntries pairText).filterMap fun e =>
    match e.2 with
    | [b, c] => some (e.1 * 0x110000 + b, c)
    | _ => none
  (pairs.mergeSort fun a b => a.1 ≤ b.1).toArray

def combiningRanges : List (Nat × Ranges) :=
  combiningTable.map fun c => (c.1, Ranges.ofText c.2)

def allCombining : Ranges :=
  (Ranges.normal (combiningRanges.flatMap fun c => c.2.toList)).toArray

/-- The canonical combining class; 0 for a character that starts anew. -/
def combiningClass (c : Char) : Nat :=
  if c.toNat < 0x300 || !allCombining.contains c then 0
  else ((combiningRanges.find? fun r => r.2.contains c).map Prod.fst).getD 0

def hangulBase : Nat := 0xac00

/-- A character taken apart. Korean syllables follow a formula. -/
def decompose (c : Char) : List Char :=
  let n := c.toNat
  if hangulBase ≤ n && n < hangulBase + 11172 then
    let i := n - hangulBase
    let lead := Char.ofNat (0x1100 + i / 588)
    let vowel := Char.ofNat (0x1161 + i % 588 / 28)
    if i % 28 = 0 then [lead, vowel] else [lead, vowel, Char.ofNat (0x11a7 + i % 28)]
  else
    match lookupKey decompositions n with
    | some image => image.map Char.ofNat
    | none => [c]

/-- Sorts runs of marks by combining class, equal ones keeping their order. -/
def orderMarks (cs : List Char) : List Char :=
  let tagged := cs.map fun c => (combiningClass c, c)
  let flush := fun (run : List (Nat × Char)) =>
    (run.reverse.mergeSort fun a b => a.1 ≤ b.1).map Prod.snd
  let step := fun (acc : List Char × List (Nat × Char)) (t : Nat × Char) =>
    if t.1 = 0 then (t.2 :: ((flush acc.2).reverse ++ acc.1), []) else (acc.1, t :: acc.2)
  let (done, run) := tagged.foldl step ([], [])
  ((flush run).reverse ++ done).reverse

def compose? (a b : Char) : Option Char :=
  let m := a.toNat
  let n := b.toNat
  if 0x1100 ≤ m && m < 0x1113 && 0x1161 ≤ n && n < 0x1176 then
    some (Char.ofNat (hangulBase + (m - 0x1100) * 588 + (n - 0x1161) * 28))
  else if hangulBase ≤ m && m < hangulBase + 11172 && (m - hangulBase) % 28 = 0 &&
      0x11a8 ≤ n && n < 0x11c3 then
    some (Char.ofNat (m + (n - 0x11a7)))
  else (lookupKey composites (m * 0x110000 + n)).map Char.ofNat

/-- Puts the last starter and the marks after it together. `marks` are those that did not compose,
last first, and `last` is the class of the nearest of them. -/
def composeFrom :
    (starter : Option Char) → (marks : List Char) → (last : Nat) → List Char → List Char
  | starter, marks, _, [] => starter.toList ++ marks.reverse
  | none, marks, _, c :: cs =>
    if combiningClass c = 0 then marks.reverse ++ composeFrom (some c) [] 0 cs
    else composeFrom none (c :: marks) 0 cs
  | some s, marks, last, c :: cs =>
    let k := combiningClass c
    let free := marks.isEmpty || last < k
    match if free then compose? s c else none with
    | some t => composeFrom (some t) marks last cs
    | none =>
      if k = 0 then s :: marks.reverse ++ composeFrom (some c) [] 0 cs
      else composeFrom (some s) (c :: marks) k cs

/-- The composed form of a text. -/
def composed (cs : List Char) : List Char :=
  if cs.all (·.toNat < 0x300) then cs
  else composeFrom none [] 0 (orderMarks (cs.flatMap decompose))

end Gleaner.Text
