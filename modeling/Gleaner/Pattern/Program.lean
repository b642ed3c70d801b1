import Gleaner.Pattern.Bytes

/-!
Patterns as programs. A program is an array of instructions, each naming the ones that follow it; of
two branches the first is preferred. Searching runs all branches side by side over the text, so that
its time is bounded by the product of the two lengths.
-/
namespace Gleaner.Pattern

inductive Instr where
  | set (chars : Text.Ranges) (next : Nat)
  | branch (first second : Nat)
  | look (l : Look) (next : Nat)
  | save (slot next : Nat)
  | done

abbrev Program := Array Instr

namespace Expr

mutual

/-- Whether every match has at least one character. -/
def consumes : Expr → Bool
  | .set _ => true
  | .look _ => false
  | .group _ e => consumes e
  | .sequence es => consumesSome es
  | .choice es => consumesAll es
  | .times least _ _ e => 0 < least && consumes e

def consumesSome : List Expr → Bool
  | [] => false
  | e :: es => consumes e || consumesSome es

def consumesAll : List Expr → Bool
  | [] => true
  | e :: es => consumes e && consumesAll es

end

open CharSet (stateBytes branchBytes)

/-- The memory for repeating what takes `inner` bytes: its copies, and a branch for each of them
that may be left out. -/
def timesBytes (least : Nat) (most : Option Nat) (consuming : Bool) (inner : Nat) : Nat :=
  let fixed := if least = 0 then stateBytes else least * inner
  match least, most with
  | 0, some 1 => branchBytes 2 + inner + stateBytes
  | _, some most =>
    if most ≤ least then fixed
    else fixed + stateBytes + (most - least) * (branchBytes 2 + inner)
  | 0, none =>
    if consuming then branchBytes 2 + inner else 2 * branchBytes 2 + stateBytes + inner
  | _, none => fixed + branchBytes 2

mutual

/-- The memory for an expression as a machine over bytes: one that reads backwards, where sets of
characters take the most, with the states of groups. -/
def bytes : Expr → Nat
  | .set s => s.bytes
  | .look _ => stateBytes
  | .group _ e => bytes e + 2 * stateBytes
  | .sequence es => max stateBytes (bytesAll es)
  | .choice es => branchBytes es.length + stateBytes + bytesAll es
  | .times least most _ e => timesBytes least most (consumes e) (bytes e)

def bytesAll : List Expr → Nat
  | [] => 0
  | e :: es => bytes e + bytesAll es

end

/-- A branch that prefers going on inside, or, if lazy, going past. -/
def fork (greedy : Bool) (inside past : Nat) : Instr :=
  if greedy then .branch inside past else .branch past inside

/-- Adds an instruction and answers its index. -/
def emit (i : Instr) (p : Program) : Nat × Program := (p.size, p.push i)

/-- Repeats a compilation step `n` times, each ending where the one before it starts. -/
def iterate (n : Nat) (step : Nat → Program → Nat × Program) (next : Nat) (p : Program) :
    Nat × Program :=
  n.repeat (fun s => step s.1 s.2) (next, p)

/-- A loop over `body`, at least once around; answers where the first round starts. -/
def loopOnce (greedy : Bool) (body : Nat → Program → Nat × Program) (next : Nat) (p : Program) :
    Nat × Program :=
  let (top, p) := emit .done p
  let (start, p) := body top p
  (start, p.setIfInBounds top (fork greedy start next))

mutual

/-- Compiles an expression in front of the instruction `next`; answers where it starts. -/
def compile : Expr → (next : Nat) → Program → Nat × Program
  | .set s, next, p => emit (.set s.toArray next) p
  | .look l, next, p => emit (.look l next) p
  | .group i e, next, p =>
    let (close, p) := emit (.save (2 * i + 1) next) p
    let (start, p) := compile e close p
    emit (.save (2 * i) start) p
  | .sequence es, next, p => compileAll es next p
  | .choice es, next, p => compileChoice es next p
  | .times least most greedy e, next, p =>
    let body := fun (next : Nat) (p : Program) => compile e next p
    match most with
    | some most =>
      let optional := fun (inside : Nat) (p : Program) =>
        let (start, p) := body inside p
        emit (fork greedy start next) p
      let (start, p) := iterate (most - least) optional next p
      iterate least body start p
    | none =>
      if least = 0 then
        if consumes e then
          let (top, p) := emit .done p
          let (start, p) := body top p
          (top, p.setIfInBounds top (fork greedy start next))
        else
          let (start, p) := loopOnce greedy body next p
          emit (fork greedy start next) p
      else
        let (start, p) := loopOnce greedy body next p
        iterate (least - 1) body start p

def compileAll : List Expr → (next : Nat) → Program → Nat × Program
  | [], next, p => (next, p)
  | e :: es, next, p =>
    let (rest, p) := compileAll es next p
    compile e rest p

def compileChoice : List Expr → (next : Nat) → Program → Nat × Program
  | [], _, p => emit (.set #[] 0) p
  | [e], next, p => compile e next p
  | e :: es, next, p =>
    let (start, p) := compile e next p
    let (rest, p) := compileChoice es next p
    emit (.branch start rest) p

end

end Expr

/-- A pattern ready to search with. -/
structure Compiled where
  program : Program
  start : Nat
  groups : Nat

/-- Patterns whose machines take more memory than this are refused. -/
def mostBytes : Nat := 10485760

/-- The states of a machine that belong to no expression: it may start anywhere, and has an end. -/
def frameBytes : Nat := CharSet.branchBytes 2 + 2 * CharSet.stateBytes

def Compiled.ofExpr? (e : Expr) (groups : Nat) : Option Compiled :=
  if mostBytes < (Expr.group 0 e).bytes + frameBytes then none
  else
    let (start, program) := (Expr.group 0 e).compile 0 #[.done]
    some ⟨program, start, groups⟩

end Gleaner.Pattern
