import Gleaner.Pattern.Program
import Gleaner.Pattern.Parser

/-!
Searching text for a pattern. The match found is the one that starts first and, of those, the one
that prefers its branches in order.
-/
namespace Gleaner.Pattern

def isWordAt (ascii : Bool) : Option Char → Bool
  | some c => if ascii then c.toNat < 128 && Text.isWordChar c else Text.isWordChar c
  | none => false

/-- Whether a condition holds between two characters; `none` is an end of the text. -/
def Look.holds (l : Look) (before after : Option Char) : Bool :=
  match l with
  | .textStart => before.isNone
  | .textEnd => after.isNone
  | .lineStart false => before.isNone || before == some '\n'
  | .lineStart true =>
    before.isNone || before == some '\n' || (before == some '\r' && after != some '\n')
  | .lineEnd false => after.isNone || after == some '\n'
  | .lineEnd true =>
    after.isNone || after == some '\r' || (after == some '\n' && before != some '\r')
  | .wordBoundary a => isWordAt a before != isWordAt a after
  | .wordInside a => isWordAt a before == isWordAt a after
  | .wordStart a => !isWordAt a before && isWordAt a after
  | .wordEnd a => isWordAt a before && !isWordAt a after
  | .wordStartHalf a => !isWordAt a before
  | .wordEndHalf a => !isWordAt a after

/-- Where each group starts and ends, group 0 being the whole match. -/
abbrev Slots := Array (Option Nat)

structure Thread where
  at_ : Nat
  slots : Slots

/-- The threads waiting for a character, last first, and the instructions already reached. -/
structure Frontier where
  threads : List Thread
  reached : Array Bool

/-- Follows the instructions that need no character, in order of preference. -/
def follow (p : Program) (place : Nat) (before after : Option Char) :
    (fuel : Nat) → (pc : Nat) → Slots → Frontier → Frontier
  | 0, _, _, f => f
  | fuel + 1, pc, slots, f =>
    if (f.reached[pc]?).getD true then f
    else
      let f := { f with reached := f.reached.setIfInBounds pc true }
      match p[pc]? with
      | none => f
      | some (.set _ _) | some .done => { f with threads := ⟨pc, slots⟩ :: f.threads }
      | some (.branch a b) =>
        let f := follow p place before after fuel a slots f
        follow p place before after fuel b slots f
      | some (.look l next) =>
        if l.holds before after then follow p place before after fuel next slots f else f
      | some (.save slot next) =>
        follow p place before after fuel next (slots.setIfInBounds slot (some place)) f

/-- Moves threads over one character, in order of preference. A thread that is done ends the search
of those behind it. -/
def advance (p : Program) (place : Nat) (c : Option Char) (after : Option Char) :
    List Thread → (best : Option Slots) → Frontier → Option Slots × Frontier
  | [], best, f => (best, f)
  | t :: ts, best, f =>
    match p[t.at_]? with
    | some .done => (some t.slots, f)
    | some (.set s next) =>
      match c with
      | some d =>
        if s.contains d then
          advance p place c after ts best
            (follow p (place + 1) (some d) after (p.size + 1) next t.slots f)
        else advance p place c after ts best f
      | none => advance p place c after ts best f
    | _ => advance p place c after ts best f

/-- Runs the threads over the text. While nothing is found a new search starts at every place. -/
def run (c : Compiled) (start : Slots) :
    (place : Nat) → (before : Option Char) → List Char → List Thread → Option Slots → Option Slots
  | place, before, cs, threads, best =>
    let none' : Array Bool := Array.replicate c.program.size false
    let f : Frontier := ⟨threads.reverse, none'⟩
    let f := threads.foldl (fun f t => { f with reached := f.reached.setIfInBounds t.at_ true }) f
    let f :=
      if best.isNone then
        follow c.program place before cs.head? (c.program.size + 1) c.start start f
      else f
    let threads := f.threads.reverse
    match cs with
    | [] => (advance c.program place none none threads best ⟨[], none'⟩).1
    | d :: rest =>
      let (best, next) := advance c.program place (some d) rest.head? threads best ⟨[], none'⟩
      if next.threads.isEmpty && best.isSome then best
      else run c start (place + 1) (some d) rest next.threads.reverse best

/-- The slots of the first match. -/
def Compiled.search (c : Compiled) (cs : List Char) : Option Slots :=
  run c (Array.replicate (2 * (c.groups + 1)) none) 0 none cs [] none

/-- The pattern for a text, unless it is malformed or too large. -/
def Compiled.ofText? (text : String) : Option Compiled :=
  (Expr.parse? text).bind fun r => Compiled.ofExpr? r.1 r.2

/-- The text of a group in a match, if the group took part. -/
def groupText? (cs : List Char) (slots : Slots) (group : Nat) : Option (List Char) :=
  match slots[2 * group]?, slots[2 * group + 1]? with
  | some (some a), some (some b) => some ((cs.drop a).take (b - a))
  | _, _ => none

/-- The text of a group in the first match, or of the whole match if the group took no part. A
pattern that is refused matches nothing, and without a match the text is empty. -/
def capture (pattern : String) (group : Nat) (text : String) : String :=
  let cs := text.toList
  match (Compiled.ofText? pattern).bind fun c => c.search cs with
  | none => ""
  | some slots =>
    String.ofList (((groupText? cs slots group).or (groupText? cs slots 0)).getD [])

end Gleaner.Pattern
