import Gleaner.Pattern.Basic

/-!
Sets of characters as machines over bytes, and the memory that these take. A set becomes sequences
of byte ranges, as UTF-8 writes its members; sequences that start alike share their first states.
-/
namespace Gleaner.Pattern

/-- A range for each byte of a character. In tails only the low six bits count. -/
abbrev ByteRanges := List (Nat × Nat)

/-- A way to write characters: the codes from `low` to `high` take a byte from `lead` on and so many
tails of six bits. -/
structure ByteForm where
  low : Nat
  high : Nat
  lead : Nat
  tails : Nat

/-- The forms of UTF-8. Surrogates have none. -/
def byteForms : List ByteForm :=
  [⟨0, 0x7f, 0, 0⟩, ⟨0x80, 0x7ff, 0xc0, 1⟩, ⟨0x800, 0xd7ff, 0xe0, 2⟩, ⟨0xe000, 0xffff, 0xe0, 2⟩,
    ⟨0x10000, 0x10ffff, 0xf0, 3⟩]

/-- The numbers from `a` to `b` as sequences: what lies below the first full block, the full blocks,
and what lies above them. -/
def splitTails : (tails : Nat) → (a b : Nat) → List ByteRanges
  | 0, a, b => [[(a, b)]]
  | tails + 1, a, b =>
    let block := 64 ^ (tails + 1)
    let within := fun (lead a b : Nat) => (splitTails tails a b).map ((lead, lead) :: ·)
    if a / block = b / block then within (a / block) (a % block) (b % block)
    else
      let (below, first) :=
        if a % block = 0 then ([], a / block)
        else (within (a / block) (a % block) (block - 1), a / block + 1)
      let (above, past) :=
        if b % block = block - 1 then ([], b / block + 1)
        else (within (b / block) 0 (b % block), b / block)
      let full :=
        if first < past then [(first, past - 1) :: List.replicate (tails + 1) (0, 63)] else []
      below ++ full ++ above

/-- The sequences for those of the codes from `a` to `b` that are written in a form. -/
def ByteForm.sequences (f : ByteForm) (a b : Nat) : List ByteRanges :=
  if max a f.low ≤ min b f.high then
    (splitTails f.tails (max a f.low) (min b f.high)).map
      (List.modifyHead fun r => (f.lead + r.1, f.lead + r.2))
  else []

namespace CharSet

def sequences (s : CharSet) : List ByteRanges :=
  s.flatMap fun r => byteForms.flatMap fun f => f.sequences r.1 r.2

/-- The length of the part in which two sequences agree. -/
def shared : ByteRanges → ByteRanges → Nat
  | r :: rs, s :: ss => if r = s then shared rs ss + 1 else 0
  | _, _ => 0

/-- The states for sequences in their order, behind those for the sequence `before`. -/
def states (before : ByteRanges) : List ByteRanges → Nat
  | [] => 0
  | s :: rest => (s.length - shared before s) + states s rest

/-- The memory of a state, without the list of what may follow it. -/
def stateBytes : Nat := 32

/-- The memory of a state that so many others may follow. -/
def branchBytes (ways : Nat) : Nat := stateBytes + 4 * ways

def isLiteral : CharSet → Bool
  | [r] => r.1 = r.2
  | _ => false

/-- The memory for a set. A character alone stands for the bytes that write it, and a set of ASCII
for one state with its ranges. -/
def bytes (s : CharSet) : Nat :=
  let count := states [] s.sequences
  if s.isEmpty then stateBytes
  else if s.isLiteral then stateBytes * count
  else if s.all fun r => r.2 < 0x80 then 2 * stateBytes + 8 * s.length
  else stateBytes + branchBytes s.sequences.length + stateBytes * count

end CharSet

end Gleaner.Pattern
