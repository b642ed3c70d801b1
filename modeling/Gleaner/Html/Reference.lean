import Gleaner.Html.ReferenceTable
import Gleaner.Charset.Utf8
import Gleaner.Text.Ranges

/-!
Character references, by name and by number.
-/
namespace Gleaner.Html

/-- One entry of the table. -/
def referenceOf (entry : List Char) : String × List Char :=
  let name := (entry.takeWhile (· ≠ '=')).map fun c => if c = '.' then ';' else c
  let image := (Text.splitAtChar '-' ((entry.dropWhile (· ≠ '=')).drop 1)).map Text.hexNumber
  (String.ofList name, image.map Char.ofNat)

def references : Array (String × List Char) :=
  ((Text.words referenceText.toList).map referenceOf).toArray

/-- Bisection for a name between two indices of the table. -/
def searchName (name : String) : (fuel lo hi : Nat) → Option (List Char)
  | 0, _, _ => none
  | fuel + 1, lo, hi =>
    if lo < hi then
      let mid := (lo + hi) / 2
      match references[mid]? with
      | none => none
      | some (k, image) =>
        if name < k then searchName name fuel lo mid
        else if k < name then searchName name fuel (mid + 1) hi
        else some image
    else none

def reference? (name : List Char) : Option (List Char) :=
  searchName (String.ofList name) (references.size.log2 + 2) 0 references.size

def isAlnum (c : Char) : Bool := c.isAlphanum

/-- What the numbers from 128 on stand for that are no characters of use. -/
def oldCodes : List Nat :=
  [0x20ac, 0x81, 0x201a, 0x192, 0x201e, 0x2026, 0x2020, 0x2021, 0x2c6, 0x2030, 0x160, 0x2039, 0x152,
    0x8d, 0x17d, 0x8f, 0x90, 0x2018, 0x2019, 0x201c, 0x201d, 0x2022, 0x2013, 0x2014, 0x2dc, 0x2122,
    0x161, 0x203a, 0x153, 0x9d, 0x17e, 0x178]

/-- The character of a number. -/
def numbered (n : Nat) : Char :=
  if n = 0 || 0x10ffff < n || (0xd800 ≤ n && n < 0xe000) then Utf8.replacement
  else if 0x80 ≤ n && n < 0xa0 then Char.ofNat (oldCodes.getD (n - 0x80) n)
  else Char.ofNat n

/-- The characters of a number whose digits stand in front, and what follows it. -/
def numericReference? (isDigit : Char → Bool) (radix : Nat) (cs : List Char) :
    Option (List Char × List Char) :=
  let digits := cs.takeWhile isDigit
  let rest := cs.drop digits.length
  if digits.isEmpty then none
  else
    let n := digits.foldl (fun n c => radix * n + (Text.hexValue? c).getD 0) 0
    some ([numbered n], match rest with
      | ';' :: rest => rest
      | rest => rest)

/-- The longest name among the first `n` characters of a run that stands for something. -/
def longestName? (run : List Char) : (n : Nat) → Option (List Char × Nat)
  | 0 => none
  | n + 1 =>
    match reference? (run.take (n + 1)) with
    | some image => some (image, n + 1)
    | none => longestName? run n

/-- No name is longer. -/
def longestReference : Nat := 32

/-- A named reference. In an attribute a name without a semicolon must not run on. -/
def namedReference? (inAttr : Bool) (cs : List Char) : Option (List Char × List Char) :=
  let run := (cs.take longestReference).takeWhile isAlnum
  let whole := if cs[run.length]? == some ';' then reference? (run ++ [';']) else none
  match whole with
  | some image => some (image, cs.drop (run.length + 1))
  | none =>
    match longestName? run run.length with
    | none => none
    | some (image, n) =>
      let runsOn := match cs[n]? with
        | some c => c = '=' || isAlnum c
        | none => false
      if inAttr && runsOn then none else some (image, cs.drop n)

/-- The characters for an ampersand and what is taken of the text behind it; and the rest. -/
def afterAmpersand (inAttr : Bool) (cs : List Char) : List Char × List Char :=
  let found := match cs with
    | '#' :: 'x' :: rest | '#' :: 'X' :: rest =>
      numericReference? (fun c => (Text.hexValue? c).isSome) 16 rest
    | '#' :: rest => numericReference? Char.isDigit 10 rest
    | _ => namedReference? inAttr cs
  found.getD (['&'], cs)

/-- A text with its references resolved, onto what is already read, last character first. -/
def resolveFrom (inAttr : Bool) : (fuel : Nat) → (acc : List Char) → List Char → List Char
  | 0, acc, cs => acc.reverse ++ cs
  | _ + 1, acc, [] => acc.reverse
  | fuel + 1, acc, '&' :: cs =>
    let (found, rest) := afterAmpersand inAttr cs
    resolveFrom inAttr fuel (found.reverse ++ acc) rest
  | fuel + 1, acc, c :: cs => resolveFrom inAttr fuel (c :: acc) cs

/-- A text with its references resolved. Each step takes a character at least. -/
def resolveReferences (inAttr : Bool) (cs : List Char) : List Char :=
  resolveFrom inAttr (cs.length + 1) [] cs

end Gleaner.Html
