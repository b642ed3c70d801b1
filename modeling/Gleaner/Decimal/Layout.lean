import Gleaner.Decimal.Shortest

/-!
Printing doubles. The digits are the shortest ones that read back; a layout says where the point and
the exponent go.
-/
namespace Gleaner.Decimal

structure Layout where
  /-- Which way a value midway between two shortest decimals goes. -/
  tie : Tie
  /-- Whether a number whose leading digit stands at `10 ^ k` is written without an exponent. -/
  positional : Int → Bool
  /-- Whether a whole number keeps a zero after its point. -/
  pointZero : Bool

/-- Never an exponent and no needless point. -/
def Layout.plain : Layout := ⟨.up, fun _ => true, false⟩

/-- Always a point or an exponent; positional from `10 ^ -5` to below `10 ^ 16`. -/
def Layout.json : Layout := ⟨.toEven, fun k => -5 ≤ k && k < 16, true⟩

def zeros (n : Nat) : List Char := List.replicate n '0'

/-- Digits without the zeros at their end, and how many those were. -/
def trimZeros (ds : List Char) : List Char × Nat :=
  let tail := ds.reverse.takeWhile (· = '0')
  (ds.take (ds.length - tail.length), tail.length)

/-- Digits with the point after the first `k + 1` of them, zeros filling either side. -/
def positionalText (pointZero : Bool) (ds : List Char) (k : Int) : List Char :=
  if k < 0 then '0' :: '.' :: zeros (k.natAbs - 1) ++ ds
  else
    let n := k.toNat + 1
    if n < ds.length then ds.take n ++ '.' :: ds.drop n
    else ds ++ zeros (n - ds.length) ++ if pointZero then ['.', '0'] else []

/-- One digit before the point, the rest after it, and a signed exponent. -/
def exponentText (ds : List Char) (k : Int) : List Char :=
  ds.take 1 ++ (if ds.length ≤ 1 then [] else '.' :: ds.drop 1) ++
    ['e', if k < 0 then '-' else '+'] ++ Nat.toDigits 10 k.natAbs

/-- The text of a finite double with the given bits. -/
def finiteText (l : Layout) (bits : Nat) : List Char :=
  let sign := if Nat.pow 2 63 ≤ bits then ['-'] else []
  let size := bits % Nat.pow 2 63
  if size = 0 then sign ++ '0' :: if l.pointZero then ['.', '0'] else []
  else
    let (n, e) := shortest l.tie (Binary.ofBits size)
    let all := Nat.toDigits 10 n
    let k := e + all.length - 1
    let ds := (trimZeros all).1
    sign ++ if l.positional k then positionalText l.pointZero ds k else exponentText ds k

/-- Shortest decimal digits without an exponent; `NaN`, `inf` and `-inf` by name. -/
def plainText (x : Float) : String :=
  if x.isNaN then "NaN"
  else if x.isInf then (if x < 0 then "-inf" else "inf")
  else String.ofList (finiteText .plain x.toBits.toNat)

end Gleaner.Decimal
