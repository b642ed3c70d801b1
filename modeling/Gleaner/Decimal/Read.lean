/-!
Decimal numerals and the double nearest to each. A numeral has an optional sign, digits with at most
one point among or beside them, and an optional exponent; the words `inf`, `infinity` and `nan` are
read in any case.
-/
namespace Gleaner.Decimal

/-- The number written by ASCII digits. -/
def digitsValue (cs : List Char) : Nat := cs.foldl (fun n c => 10 * n + (c.toNat - '0'.toNat)) 0

/-- `mantissa · 10 ^ exponent`, with a sign of its own so that zero has two forms. -/
structure Scaled where
  negative : Bool
  mantissa : Nat
  exponent : Int
  deriving DecidableEq, Repr

inductive Numeral where
  | finite (value : Scaled)
  | infinite (negative : Bool)
  | nan
  deriving DecidableEq, Repr

/-- An exponent part, or none of it; the rest of the text follows. -/
def exponent? : List Char → Option (Int × List Char)
  | c :: cs =>
    if c = 'e' ∨ c = 'E' then
      let (negative, ds) := match cs with
        | '+' :: ds => (false, ds)
        | '-' :: ds => (true, ds)
        | ds => (false, ds)
      let digits := ds.takeWhile Char.isDigit
      if digits.isEmpty then none
      else
        let n : Int := digitsValue digits
        some (if negative then -n else n, ds.dropWhile Char.isDigit)
    else some (0, c :: cs)
  | [] => some (0, [])

/-- Reads an unsigned decimal number that is the whole text. -/
def unsigned? (negative : Bool) (cs : List Char) : Option Scaled :=
  let whole := cs.takeWhile Char.isDigit
  let rest := cs.dropWhile Char.isDigit
  let (fraction, rest) := match rest with
    | '.' :: ds => (ds.takeWhile Char.isDigit, ds.dropWhile Char.isDigit)
    | ds => ([], ds)
  if whole.isEmpty && fraction.isEmpty then none
  else match exponent? rest with
    | some (e, []) => some ⟨negative, digitsValue (whole ++ fraction), e - fraction.length⟩
    | _ => none

/-- The sign in front of a numeral, and what it stands in front of. -/
def splitSign : List Char → Bool × List Char
  | '-' :: cs => (true, cs)
  | '+' :: cs => (false, cs)
  | cs => (false, cs)

def Numeral.read? (cs : List Char) : Option Numeral :=
  let (negative, cs) := splitSign cs
  match String.ofList (cs.map Char.toLower) with
  | "inf" | "infinity" => some (.infinite negative)
  | "nan" => some .nan
  | _ => (unsigned? negative cs).map .finite

/-- The double nearest to a decimal number, ties to even; beyond the range of doubles infinity. The
first two cases only keep the powers of ten small. -/
def Scaled.toFloat (d : Scaled) : Float :=
  let size :=
    if d.mantissa = 0 then 0.0
    else if d.exponent > 400 then 1.0 / 0.0
    else if d.exponent + (d.mantissa.log2 : Int) * 302 / 1000 < -340 then 0.0
    else if d.exponent < 0 then Float.ofScientific d.mantissa true d.exponent.natAbs
    else Float.ofScientific d.mantissa false d.exponent.natAbs
  if d.negative then -size else size

def Numeral.toFloat : Numeral → Float
  | .finite d => d.toFloat
  | .infinite true => -(1.0 / 0.0)
  | .infinite false => 1.0 / 0.0
  | .nan => 0.0 / 0.0

/-- The double named by the whole text. -/
def float? (cs : List Char) : Option Float := (Numeral.read? cs).map Numeral.toFloat

/-- A natural number below `bound`, written in ASCII digits with an optional plus sign. -/
def natural? (bound : Nat) (cs : List Char) : Option Nat :=
  let ds := match cs with
    | '+' :: ds => ds
    | ds => ds
  if ds.isEmpty || !ds.all Char.isDigit then none
  else
    let n := digitsValue ds
    if n < bound then some n else none

end Gleaner.Decimal
