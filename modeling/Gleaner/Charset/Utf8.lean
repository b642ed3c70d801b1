/-!
UTF-8. Bytes are natural numbers below 256. What is malformed decodes to the replacement character,
one for each longest start of a sequence.
-/
namespace Gleaner.Utf8

def encodeChar (c : Char) : List Nat :=
  let n := c.toNat
  if n < 0x80 then [n]
  else if n < 0x800 then [0xc0 + n / 64, 0x80 + n % 64]
  else if n < 0x10000 then [0xe0 + n / 4096, 0x80 + n / 64 % 64, 0x80 + n % 64]
  else [0xf0 + n / 262144, 0x80 + n / 4096 % 64, 0x80 + n / 64 % 64, 0x80 + n % 64]

def encode (cs : List Char) : List Nat := cs.flatMap encodeChar

/-- What stands for malformed bytes. -/
def replacement : Char := Char.ofNat 0xfffd

def isTail (b : Nat) : Bool := 0x80 ≤ b && b < 0xc0

/-- The second bytes that may follow a lead byte of three or four. -/
def isSecond (lead b : Nat) : Bool :=
  let low := if lead = 0xe0 then 0xa0 else if lead = 0xf0 then 0x90 else 0x80
  let high := if lead = 0xed then 0xa0 else if lead = 0xf4 then 0x90 else 0xc0
  low ≤ b && b < high

/-- Reads bytes of a sequence onto the number read so far: the first must satisfy the test, the
`more` after it must be plain tails. What follows the longest good start is left. -/
def tails (value more : Nat) (test : Nat → Bool) : List Nat → Char × List Nat
  | [] => (replacement, [])
  | b :: rest =>
    if test b then
      match more with
      | 0 => (Char.ofNat (value * 64 + (b - 0x80)), rest)
      | more + 1 => tails (value * 64 + (b - 0x80)) more isTail rest
    else (replacement, b :: rest)

/-- The character that a first byte starts, and the bytes after it. -/
def decodeChar (a : Nat) (rest : List Nat) : Char × List Nat :=
  if a < 0x80 then (Char.ofNat a, rest)
  else if 0xc2 ≤ a && a < 0xe0 then tails (a - 0xc0) 0 isTail rest
  else if 0xe0 ≤ a && a < 0xf0 then tails (a - 0xe0) 1 (isSecond a) rest
  else if 0xf0 ≤ a && a < 0xf5 then tails (a - 0xf0) 2 (isSecond a) rest
  else (replacement, rest)

theorem length_tails (value more : Nat) (test : Nat → Bool) (bs : List Nat) :
    (tails value more test bs).2.length ≤ bs.length := by
  induction bs generalizing value more test with
  | nil => simp [tails]
  | cons b rest ih =>
    unfold tails
    split
    · split
      · simp
      · next n => exact Nat.le_trans (ih (value * 64 + (b - 0x80)) n isTail) (by simp)
    · simp

theorem length_decodeChar (a : Nat) (rest : List Nat) :
    (decodeChar a rest).2.length ≤ rest.length := by
  unfold decodeChar
  repeat' split
  all_goals first | exact length_tails .. | exact Nat.le_refl _

/-- Decodes onto characters that are already read, the last of them first. -/
def decodeOnto (acc : List Char) : List Nat → List Char
  | [] => acc.reverse
  | a :: rest => decodeOnto ((decodeChar a rest).1 :: acc) (decodeChar a rest).2
termination_by bs => bs.length
decreasing_by exact Nat.lt_succ_of_le (length_decodeChar a rest)

def decode (bs : List Nat) : List Char := decodeOnto [] bs

/-- Bytes are well-formed when the characters that they decode to encode to them. -/
def isWellFormed (bs : List Nat) : Bool := encode (decode bs) == bs

theorem decodeOnto_eq (n : Nat) : ∀ (acc : List Char) (bs : List Nat), bs.length ≤ n →
    decodeOnto acc bs = acc.reverse ++ decodeOnto [] bs := by
  induction n with
  | zero =>
    intro acc bs h
    have : bs = [] := List.length_eq_zero_iff.1 (Nat.le_zero.1 h)
    simp [this, decodeOnto]
  | succ n ih =>
    intro acc bs h
    match bs with
    | [] => simp [decodeOnto]
    | a :: rest =>
      have hr : (decodeChar a rest).2.length ≤ n :=
        Nat.le_trans (length_decodeChar a rest) (Nat.le_of_succ_le_succ h)
      rw [decodeOnto, ih _ _ hr, decodeOnto, ih [_] _ hr]
      simp

@[simp] theorem decode_nil : decode [] = [] := by simp [decode, decodeOnto]

theorem decode_cons (a : Nat) (rest : List Nat) :
    decode (a :: rest) = (decodeChar a rest).1 :: decode (decodeChar a rest).2 := by
  rw [decode, decodeOnto, decodeOnto_eq _ _ _ (Nat.le_refl _)]
  rfl

theorem encodeChar_of_ascii {c : Char} (h : c.toNat < 0x80) : encodeChar c = [c.toNat] := by
  simp [encodeChar, h]

theorem decode_cons_of_ascii {b : Nat} (h : b < 0x80) (bs : List Nat) :
    decode (b :: bs) = Char.ofNat b :: decode bs := by
  rw [decode_cons, decodeChar, if_pos h]

end Gleaner.Utf8
