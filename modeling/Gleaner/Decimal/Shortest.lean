/-!
The shortest decimal that reads back as a given double: of the decimals with the fewest digits
inside the interval that rounds to the double, the one nearest to it.
-/
namespace Gleaner.Decimal

/-- A positive finite double as `mantissa · 2 ^ exponent`, from its bits without the sign. -/
structure Binary where
  mantissa : Nat
  exponent : Int
  /-- The next double below is only half as far away as the next one above. -/
  narrowBelow : Bool

def Binary.ofBits (bits : Nat) : Binary :=
  let biased : Nat := bits / Nat.pow 2 52 % Nat.pow 2 11
  let fraction : Nat := bits % Nat.pow 2 52
  if biased = 0 then ⟨fraction, -1074, false⟩
  else ⟨fraction + Nat.pow 2 52, (biased : Int) - 1075, fraction = 0 ∧ 1 < biased⟩

/-- What to do with a double midway between two candidates. -/
inductive Tie where
  | up
  | toEven
  deriving DecidableEq, Repr

/-- A fraction of natural numbers. -/
structure Quotient where
  num : Nat
  den : Nat

/-- `n · 2 ^ e / 10 ^ s` -/
def scaled (n : Nat) (e s : Int) : Quotient :=
  ⟨n * Nat.pow 2 e.toNat * Nat.pow 10 (-s).toNat,
    Nat.pow 2 (-e).toNat * Nat.pow 10 s.toNat⟩

/-- The exponent of the leading decimal digit. -/
def leadingExponent (b : Binary) : Int :=
  let guess := ((b.mantissa.log2 : Int) + b.exponent) * 30103 / 100000
  let reaches := fun k : Int => let q := scaled b.mantissa b.exponent k; q.den ≤ q.num
  if reaches (guess + 1) then guess + 1
  else if reaches guess then guess
  else guess - 1

/-- The candidate on the grid of step `10 ^ s`, if one of the two neighbours of the value lies in
the interval that rounds to it. -/
def onGrid? (tie : Tie) (b : Binary) (s : Int) : Option Nat :=
  let value := scaled (4 * b.mantissa) b.exponent s
  let below := (scaled (4 * b.mantissa - if b.narrowBelow then 1 else 2) b.exponent s).num
  let above := (scaled (4 * b.mantissa + 2) b.exponent s).num
  let den := 4 * value.den
  let inside := fun c : Nat =>
    if b.mantissa % 2 = 0 then below ≤ c * den ∧ c * den ≤ above
    else below < c * den ∧ c * den < above
  let lo := value.num / den
  let gapLo := value.num - lo * den
  let gapHi := (lo + 1) * den - value.num
  if inside lo then
    if inside (lo + 1) then
      if gapLo < gapHi then some lo
      else if gapHi < gapLo then some (lo + 1)
      else match tie with
        | .up => some (lo + 1)
        | .toEven => some (if lo % 2 = 0 then lo else lo + 1)
    else some lo
  else if inside (lo + 1) then some (lo + 1)
  else none

/-- The digits of the shortest decimal and the power of ten they are scaled by. -/
def shortest (tie : Tie) (b : Binary) : Nat × Int :=
  let top := leadingExponent b
  let found := (List.range 17).findSome? fun (n : Nat) =>
    (onGrid? tie b (top - n)).map fun c => (c, top - (n : Int))
  found.getD (0, 0)

end Gleaner.Decimal
