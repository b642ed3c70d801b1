import Gleaner.Text.Case

/-!
Search patterns: what they are made of, and the sets of characters in them.
-/
namespace Gleaner.Pattern

/-- Sets of characters, as increasing closed ranges of code points. -/
abbrev CharSet := List (Nat × Nat)

/-- Conditions on a place between two characters. -/
inductive Look where
  | textStart
  | textEnd
  | lineStart (crlf : Bool)
  | lineEnd (crlf : Bool)
  | wordBoundary (ascii : Bool)
  | wordInside (ascii : Bool)
  | wordStart (ascii : Bool)
  | wordEnd (ascii : Bool)
  | wordStartHalf (ascii : Bool)
  | wordEndHalf (ascii : Bool)
  deriving DecidableEq, Repr

inductive Expr where
  | set (chars : CharSet)
  | look (l : Look)
  | group (index : Nat) (e : Expr)
  | sequence (es : List Expr)
  | choice (es : List Expr)
  /-- Between `least` and `most` times, as often as possible if `greedy`, else as rarely. -/
  | times (least : Nat) (most : Option Nat) (greedy : Bool) (e : Expr)

def Expr.empty : Expr := .sequence []

namespace CharSet

def ofChar (c : Char) : CharSet := [(c.toNat, c.toNat)]

def contains (s : CharSet) (n : Nat) : Bool := s.any fun r => r.1 ≤ n && n ≤ r.2

def union (s t : CharSet) : CharSet := Text.Ranges.normal (s ++ t)

def complement (s : CharSet) : CharSet := Text.complement s

def inter (s t : CharSet) : CharSet := complement (union (complement s) (complement t))

def diff (s t : CharSet) : CharSet := inter s (complement t)

/-- The code points of one of the two sets but not of both. -/
def symmDiff (s t : CharSet) : CharSet := diff (union s t) (inter s t)

/-- The classes of characters that are equal ignoring case, of more than one member each. -/
def caseClasses : List (List Nat) :=
  let points := Text.foldTable.toList.flatMap fun r =>
    (List.range r.count).map fun i => r.start + i * r.step
  let asciiPoints := (List.range 26).map fun i => 'A'.toNat + i
  let pairs := (asciiPoints ++ points).map fun n => ((Text.foldChar (Char.ofNat n)).toNat, n)
  let sorted := pairs.mergeSort fun a b => a.1 ≤ b.1
  let gather := fun (acc : List (Nat × List Nat)) (p : Nat × Nat) =>
    match acc with
    | (f, ns) :: rest => if f = p.1 then (f, p.2 :: ns) :: rest else (p.1, [p.2, p.1]) :: acc
    | [] => [(p.1, [p.2, p.1])]
  (sorted.foldl gather []).map Prod.snd

/-- The set with everything equal to a member ignoring case. -/
def foldCase (s : CharSet) : CharSet :=
  let more := caseClasses.flatMap fun ns =>
    if ns.any (contains s) then ns.map fun n => (n, n) else []
  union s more

end CharSet

end Gleaner.Pattern
