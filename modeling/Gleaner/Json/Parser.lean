import Gleaner.Json.Basic
import Gleaner.Decimal.Read
import Gleaner.Text.Ranges

/-!
Reading JSON text. `Json.raw?` keeps repeated members; `Json.parse?` keeps the last of them. Values
nest at most 127 deep. Integers of 64 bits stay integers; any other number becomes a double, from at
most as many of its leading digits as fit in 64 bits, by one multiplication with, or division by, a
power of ten.
-/
namespace Gleaner.Json

def isSpace (c : Char) : Bool := c = ' ' || c = '\n' || c = '\t' || c = '\r'

def skipSpace (cs : List Char) : List Char := cs.dropWhile isSpace

/-- Digits appended to `n` while the number stays below `2 ^ 64`, and the digits left over. -/
def takeDigits (n : Nat) : List Char → Nat × List Char
  | [] => (n, [])
  | d :: ds =>
    let next := 10 * n + (d.toNat - '0'.toNat)
    if next < UInt64.size then takeDigits next ds else (n, d :: ds)

/-- `10 ^ k` as a double, for `k ≤ 308`. -/
def powerOfTen (k : Nat) : Float := Float.ofScientific 1 false k

/-- `n · 10 ^ e` with one rounding of `n`, one of the power of ten and one of the result; a quotient
smaller than the powers reach is divided by `10 ^ 308` first. Too large a number is none. -/
def scale? (n : Nat) (e : Int) : Option Float :=
  let x := Float.ofScientific n false 0
  let finite := fun y : Float => if y.isInf then none else some y
  if 0 ≤ e then
    if e ≤ 308 then finite (x * powerOfTen e.toNat) else if n = 0 then some x else none
  else
    let down := e.natAbs
    if down ≤ 308 then some (x / powerOfTen down)
    else if n = 0 then some x
    else if down ≤ 616 then some (x / powerOfTen 308 / powerOfTen (down - 308))
    else some 0.0

/-- The exponent part of a number, its sign and digits apart. -/
structure ExponentPart where
  negative : Bool
  digits : List Char

/-- The parts of a number as written. -/
structure NumberText where
  negative : Bool
  whole : List Char
  fraction : Option (List Char)
  exponent : Option ExponentPart

/-- A saturating exponent of 32 bits. -/
def clampExponent (e : Int) : Int := max (-2147483648) (min 2147483647 e)

def NumberText.value? (t : NumberText) : Option Number :=
  let signed := fun x : Float => Number.real (if t.negative then -x else x)
  let (n, rest) := takeDigits 0 t.whole
  match t.fraction, t.exponent, rest with
  | none, none, [] =>
    if t.negative then
      if n = 0 || Nat.pow 2 63 < n then some (signed (Float.ofScientific n false 0))
      else some (.int (-(n : Int)))
    else some (.int n)
  | _, _, _ =>
    let fraction := t.fraction.getD []
    let (n, left) := takeDigits n fraction
    let e : Int := (rest.length : Int) - ((fraction.length - left.length : Nat) : Int)
    match t.exponent with
    | none => (scale? n e).map signed
    | some x =>
      let k := Decimal.digitsValue x.digits
      if 2147483647 < k then
        if n = 0 || x.negative then some (signed 0.0) else none
      else
        (scale? n (clampExponent (if x.negative then e - k else e + k))).map signed

/-- A minus sign or none, and what follows. -/
def minus : List Char → Bool × List Char
  | '-' :: cs => (true, cs)
  | cs => (false, cs)

/-- A fraction or none, and what follows. A point needs digits after it. -/
def fractionPart? : List Char → Option (Option (List Char) × List Char)
  | '.' :: cs =>
    let digits := cs.takeWhile Char.isDigit
    if digits.isEmpty then none else some (some digits, cs.dropWhile Char.isDigit)
  | cs => some (none, cs)

/-- An exponent or none, and what follows. -/
def exponentPart? : List Char → Option (Option ExponentPart × List Char)
  | [] => some (none, [])
  | c :: cs =>
    if c = 'e' || c = 'E' then
      let (negative, ds) := Decimal.splitSign cs
      let digits := ds.takeWhile Char.isDigit
      if digits.isEmpty then none
      else some (some ⟨negative, digits⟩, ds.dropWhile Char.isDigit)
    else some (none, c :: cs)

/-- A number at the start of a text. No zero stands in front of its whole part. -/
def number? (cs : List Char) : Option (Number × List Char) :=
  let (negative, cs) := minus cs
  let whole := cs.takeWhile Char.isDigit
  if whole.isEmpty || (whole.head? == some '0' && 1 < whole.length) then none
  else do
    let (fraction, rest) ← fractionPart? (cs.dropWhile Char.isDigit)
    let (exponent, rest) ← exponentPart? rest
    let n ← NumberText.value? ⟨negative, whole, fraction, exponent⟩
    pure (n, rest)

def hex4 (a b c d : Char) : Option Nat := do
  let a ← Text.hexValue? a
  let b ← Text.hexValue? b
  let c ← Text.hexValue? c
  let d ← Text.hexValue? d
  pure (((a * 16 + b) * 16 + c) * 16 + d)

/-- The characters of a string after its opening quote, and what follows the closing one. A code
unit that needs a partner must have it. -/
def stringBody? : List Char → Option (List Char × List Char)
  | '"' :: rest => some ([], rest)
  | '\\' :: 'u' :: a :: b :: c :: d :: rest =>
    match hex4 a b c d with
    | none => none
    | some n =>
      if 0xd800 ≤ n && n < 0xdc00 then
        match rest with
        | '\\' :: 'u' :: e :: f :: g :: h :: rest =>
          match hex4 e f g h with
          | none => none
          | some m =>
            if 0xdc00 ≤ m && m < 0xe000 then
              (stringBody? rest).map fun r =>
                (Char.ofNat (0x10000 + (n - 0xd800) * 0x400 + (m - 0xdc00)) :: r.1, r.2)
            else none
        | _ => none
      else if 0xdc00 ≤ n && n < 0xe000 then none
      else (stringBody? rest).map fun r => (Char.ofNat n :: r.1, r.2)
  | '\\' :: c :: rest =>
    let plain := match c with
      | '"' => some '"'
      | '\\' => some '\\'
      | '/' => some '/'
      | 'b' => some (Char.ofNat 8)
      | 'f' => some (Char.ofNat 12)
      | 'n' => some '\n'
      | 'r' => some '\r'
      | 't' => some '\t'
      | _ => none
    match plain with
    | some c => (stringBody? rest).map fun r => (c :: r.1, r.2)
    | none => none
  | c :: rest =>
    if c = '\\' || c.toNat < 0x20 then none
    else (stringBody? rest).map fun r => (c :: r.1, r.2)
  | [] => none

mutual

/-- A value at the start of a text, blanks before it skipped. `fuel` bounds the steps and `depth`
the nesting still allowed. -/
def value? : (fuel depth : Nat) → List Char → Option (Json × List Char)
  | 0, _, _ => none
  | fuel + 1, depth, cs =>
    match skipSpace cs with
    | '"' :: rest => (stringBody? rest).map fun r => (.str (String.ofList r.1), r.2)
    | '[' :: rest =>
      if depth = 0 then none
      else match skipSpace rest with
        | ']' :: rest => some (.arr [], rest)
        | rest => (items? fuel (depth - 1) rest).map fun r => (.arr r.1, r.2)
    | '\x7b' :: rest =>
      if depth = 0 then none
      else match skipSpace rest with
        | '\x7d' :: rest => some (.obj [], rest)
        | rest => (members? fuel (depth - 1) rest).map fun r => (.obj r.1, r.2)
    | 'n' :: 'u' :: 'l' :: 'l' :: rest => some (.null, rest)
    | 't' :: 'r' :: 'u' :: 'e' :: rest => some (.bool true, rest)
    | 'f' :: 'a' :: 'l' :: 's' :: 'e' :: rest => some (.bool false, rest)
    | rest => (number? rest).map fun r => (.num r.1, r.2)

/-- The items of an array from the first on, and what follows the closing bracket. -/
def items? : (fuel depth : Nat) → List Char → Option (List Json × List Char)
  | 0, _, _ => none
  | fuel + 1, depth, cs =>
    match value? fuel depth cs with
    | none => none
    | some (j, rest) =>
      match skipSpace rest with
      | ']' :: rest => some ([j], rest)
      | ',' :: rest => (items? fuel depth rest).map fun r => (j :: r.1, r.2)
      | _ => none

/-- The members of an object from the first on, and what follows the closing brace. -/
def members? : (fuel depth : Nat) → List Char → Option (List (String × Json) × List Char)
  | 0, _, _ => none
  | fuel + 1, depth, cs =>
    match skipSpace cs with
    | '"' :: rest =>
      match stringBody? rest with
      | none => none
      | some (k, rest) =>
        match skipSpace rest with
        | ':' :: rest =>
          match value? fuel depth rest with
          | none => none
          | some (j, rest) =>
            match skipSpace rest with
            | '\x7d' :: rest => some ([(String.ofList k, j)], rest)
            | ',' :: rest =>
              (members? fuel depth rest).map fun r => ((String.ofList k, j) :: r.1, r.2)
            | _ => none
        | _ => none
    | _ => none

end

/-- The value that is the whole text, with all members of its objects. -/
def raw? (text : String) : Option Json :=
  let cs := text.toList
  match value? (cs.length + 1) 127 cs with
  | some (j, rest) => if (skipSpace rest).isEmpty then some j else none
  | none => none

/-- The value that is the whole text. -/
def parse? (text : String) : Option Json := (raw? text).map dedupe

end Gleaner.Json
