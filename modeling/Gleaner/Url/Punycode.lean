/-!
Punycode, which writes the labels of international domain names in ASCII: first the ASCII
characters, then, as numbers with digits of growing and falling weight, where the others go.
-/
namespace Gleaner.Url.Punycode

def base : Nat := 36

/-- The weight of a digit at position `k`, as far as the bias allows. -/
def threshold (bias k : Nat) : Nat := if k ≤ bias then 1 else if bias + 26 ≤ k then 26 else k - bias

def reduce : (fuel : Nat) → (delta k : Nat) → Nat × Nat
  | 0, delta, k => (delta, k)
  | fuel + 1, delta, k => if 455 < delta then reduce fuel (delta / 35) (k + base) else (delta, k)

/-- The bias after a number was written. -/
def adapt (delta points : Nat) (first : Bool) : Nat :=
  let delta := if first then delta / 700 else delta / 2
  let delta := delta + delta / points
  let (delta, k) := reduce delta delta 0
  k + 36 * delta / (delta + 38)

def digitChar (d : Nat) : Char :=
  if d < 26 then Char.ofNat ('a'.toNat + d) else Char.ofNat ('0'.toNat + (d - 26))

def digitValue? (c : Char) : Option Nat :=
  if c.isDigit then some (c.toNat - '0'.toNat + 26)
  else if c.isAlpha then some (c.toLower.toNat - 'a'.toNat)
  else none

/-- The digits of a number. -/
def variable_ : (fuel : Nat) → (bias q k : Nat) → List Char
  | 0, _, _, _ => []
  | fuel + 1, bias, q, k =>
    let t := threshold bias k
    if q < t then [digitChar q]
    else
      digitChar (t + (q - t) % (base - t)) ::
        variable_ fuel bias ((q - t) / (base - t)) (k + base)

structure State where
  delta : Nat
  bias : Nat
  handled : Nat
  out : List Char

/-- Passes over the label for one code point, writing a number at each place where it stands. -/
def pass (basic n : Nat) (cs : List Char) (s : State) : State :=
  cs.foldl
    (fun s c =>
      if c.toNat < n then { s with delta := s.delta + 1 }
      else if c.toNat = n then
        { delta := 0
          bias := adapt s.delta (s.handled + 1) (s.handled = basic)
          handled := s.handled + 1
          out := s.out ++ variable_ (s.delta + 1) s.bias s.delta base }
      else s)
    s

def encodeFrom (basic : Nat) (cs : List Char) : (fuel : Nat) → (n : Nat) → State → List Char
  | 0, _, s => s.out
  | fuel + 1, n, s =>
    match (cs.filter fun c => n ≤ c.toNat).map Char.toNat |>.min? with
    | none => s.out
    | some m =>
      let s := { s with delta := s.delta + (m - n) * (s.handled + 1) }
      let s := pass basic m cs s
      encodeFrom basic cs fuel (m + 1) { s with delta := s.delta + 1 }

def encode (cs : List Char) : List Char :=
  let ascii := cs.filter fun c => c.toNat < 128
  let start := if ascii.isEmpty then [] else ascii ++ ['-']
  encodeFrom ascii.length cs (cs.length + 1) 128 ⟨0, 72, ascii.length, start⟩

/-- Reads one number; answers its value added to `i`, and the rest. -/
def number? (bias : Nat) : (i weight k : Nat) → List Char → Option (Nat × List Char)
  | _, _, _, [] => none
  | i, weight, k, c :: cs =>
    match digitValue? c with
    | none => none
    | some d =>
      let i := i + d * weight
      let t := threshold bias k
      if UInt32.size ≤ i then none
      else if d < t then some (i, cs)
      else number? bias i (weight * (base - t)) (k + base) cs

def decodeFrom :
    (fuel : Nat) → (n i bias : Nat) → (out : List Char) → List Char → Option (List Char)
  | 0, _, _, _, _, _ => none
  | fuel + 1, n, i, bias, out, cs =>
    match cs with
    | [] => some out
    | _ =>
      match number? bias i 1 base cs with
      | none => none
      | some (j, rest) =>
        let points := out.length + 1
        let n := n + j / points
        let at_ := j % points
        if h : n.isValidChar then
          decodeFrom fuel n (at_ + 1) (adapt (j - i) points (i = 0))
            (out.take at_ ++ Char.ofNatAux n h :: out.drop at_) rest
        else none

/-- The label that a text stands for. -/
def decode? (cs : List Char) : Option (List Char) :=
  let tail := cs.reverse.takeWhile (· ≠ '-')
  let (ascii, rest) :=
    if tail.length = cs.length then ([], cs)
    else (cs.take (cs.length - tail.length - 1), tail.reverse)
  if ascii.all (·.toNat < 128) then decodeFrom (rest.length + 1) 128 0 72 ascii rest else none

end Gleaner.Url.Punycode
