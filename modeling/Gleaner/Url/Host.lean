import Gleaner.Url.Domain
import Gleaner.Url.Percent
import Gleaner.Decimal.Read

/-!
Hosts: domain names, numeric addresses of either kind, and names that nobody interprets.
-/
namespace Gleaner.Url

/-- Why a text is no absolute address. -/
inductive ParseError where
  | noBase
  | opaqueBase
  | emptyHost
  | port
  | ipv4
  | ipv6
  | domain
  | hostCharacter
  deriving DecidableEq, Repr

def ParseError.message : ParseError → String
  | .noBase => "relative URL without a base"
  | .opaqueBase => "relative URL with a cannot-be-a-base base"
  | .emptyHost => "empty host"
  | .port => "invalid port number"
  | .ipv4 => "invalid IPv4 address"
  | .ipv6 => "invalid IPv6 address"
  | .domain => "invalid international domain name"
  | .hostCharacter => "invalid domain character"

/-- A number in decimal, octal after a leading zero, or hexadecimal after `0x`. The outer `none` is
no number, the inner one a number of more than 32 bits. -/
def addressNumber? (cs : List Char) : Option (Option Nat) :=
  let read := fun (isDigit : Char → Bool) (radix : Nat) (ds : List Char) =>
    if ds.all isDigit then
      let n := ds.foldl (fun n c => radix * n + (Text.hexValue? c).getD 0) 0
      some (if n < UInt32.size then some n else none)
    else none
  match cs with
  | [] => none
  | '0' :: 'x' :: ds | '0' :: 'X' :: ds => read (fun c => (Text.hexValue? c).isSome) 16 ds
  | '0' :: d :: ds => read (fun c => '0' ≤ c && c ≤ '7') 8 (d :: ds)
  | ds => read Char.isDigit 10 ds

/-- Whether the last label that is not empty makes the name a numeric address. -/
def endsInNumber (cs : List Char) : Bool :=
  let last := match (Text.splitAtChar '.' cs).reverse with
    | [] :: l :: _ => l
    | [] :: [] => []
    | l :: _ => l
    | [] => []
  !last.isEmpty && (last.all Char.isDigit || (addressNumber? last).isSome)

/-- The address of 32 bits that one to four numbers stand for. -/
def ipv4? (cs : List Char) : Option Nat := do
  let parts := Text.splitAtChar '.' cs
  let parts := if parts.getLast? == some [] then parts.dropLast else parts
  if 4 < parts.length then none
  let numbers ← parts.mapM fun p => (addressNumber? p).bind id
  let last ← numbers.getLast?
  let first := numbers.dropLast
  if first.any (255 < ·) || Nat.pow 256 (4 - first.length) ≤ last then none
  some (first.zipIdx.foldl (fun n (b, i) => n + b * Nat.pow 256 (3 - i)) last)

def ipv4Text (n : Nat) : List Char :=
  joinLabels ([n / 0x1000000, n / 0x10000 % 256, n / 0x100 % 256, n % 256].map (Nat.toDigits 10))

/-- Four decimal numbers at the end of an address of the longer kind, as two pieces. -/
def embeddedIpv4? (cs : List Char) : Option (List Nat) :=
  match Text.splitAtChar '.' cs with
  | [a, b, c, d] => do
    let byte := fun (ds : List Char) =>
      if ds.isEmpty || 3 < ds.length || !ds.all Char.isDigit ||
          (1 < ds.length && ds.head? == some '0') then none
      else
        let n := Decimal.digitsValue ds
        if n < 256 then some n else none
    let a ← byte a
    let b ← byte b
    let c ← byte c
    let d ← byte d
    some [a * 256 + b, c * 256 + d]
  | _ => none

def ipv6Piece? (cs : List Char) : Option Nat :=
  if cs.isEmpty || 4 < cs.length || !cs.all (fun c => (Text.hexValue? c).isSome) then none
  else some (Text.hexNumber cs)

/-- The pieces of one side of an address; the last may be four decimal numbers. -/
def ipv6Pieces? : List (List Char) → Option (List Nat)
  | [] => some []
  | [p] => if p.contains '.' then embeddedIpv4? p else (ipv6Piece? p).map fun n => [n]
  | p :: q :: ps => do
    let n ← ipv6Piece? p
    let rest ← ipv6Pieces? (q :: ps)
    some (n :: rest)

/-- Splits at the first pair of colons. -/
def splitAtGap : List Char → Option (List Char × List Char)
  | ':' :: ':' :: rest => some ([], rest)
  | c :: rest => (splitAtGap rest).map fun r => (c :: r.1, r.2)
  | [] => none

def side? (cs : List Char) : Option (List Nat) :=
  if cs.isEmpty then some [] else ipv6Pieces? (Text.splitAtChar ':' cs)

/-- The eight pieces of an address; one pair of colons stands for zeros. -/
def ipv6? (cs : List Char) : Option (List Nat) :=
  match splitAtGap cs with
  | none => (side? cs).bind fun ps => if ps.length = 8 then some ps else none
  | some (left, right) => do
    let l ← side? left
    let r ← side? right
    if left.contains '.' || 7 < l.length + r.length then none
    some (l ++ List.replicate (8 - l.length - r.length) 0 ++ r)

/-- Where the first of the longest runs of at least two zeros starts, and its length. -/
def longestZeros (ps : List Nat) : Nat × Nat :=
  let runs := (List.range ps.length).map fun i => (i, ((ps.drop i).takeWhile (· = 0)).length)
  runs.foldl (fun best r => if max 1 best.2 < r.2 then r else best) (0, 0)

def colonJoin (ps : List Nat) : List Char :=
  (":".intercalate (ps.map fun n => String.ofList (Nat.toDigits 16 n))).toList

def ipv6Text (ps : List Nat) : List Char :=
  let (start, length) := longestZeros ps
  let inner :=
    if length = 0 then colonJoin ps
    else colonJoin (ps.take start) ++ ':' :: ':' :: colonJoin (ps.drop (start + length))
  '[' :: inner ++ [']']

inductive Host where
  | domain (name : List Char)
  | ipv4 (n : Nat)
  | ipv6 (pieces : List Nat)
  deriving DecidableEq, Repr

def Host.text : Host → List Char
  | .domain name => name
  | .ipv4 n => ipv4Text n
  | .ipv6 ps => ipv6Text ps

def bracketed? (cs : List Char) : Except ParseError Host :=
  if cs.getLast? == some ']' then
    match ipv6? ((cs.drop 1).dropLast) with
    | some ps => .ok (.ipv6 ps)
    | none => .error .ipv6
  else .error .ipv6

/-- A host of a scheme whose hosts are domains and numeric addresses. -/
def Host.parse (cs : List Char) : Except ParseError Host :=
  if cs.head? == some '[' then bracketed? cs
  else
    match asciiDomain? (Utf8.decode (percentDecode cs)) with
    | none => .error .domain
    | some [] => .error .emptyHost
    | some name =>
      if endsInNumber name then
        match ipv4? name with
        | some n => .ok (.ipv4 n)
        | none => .error .ipv4
      else .ok (.domain name)

/-- ASCII characters that no host holds, not even one that nobody interprets. -/
def isForbiddenInHost (c : Char) : Bool :=
  ['\x00', '\t', '\n', '\r', ' ', '#', '/', ':', '<', '>', '?', '@', '[', '\\', ']', '^',
      '|'].contains c

/-- A host of any other scheme. -/
def Host.parseOpaque (cs : List Char) : Except ParseError Host :=
  if cs.head? == some '[' then bracketed? cs
  else if cs.any isForbiddenInHost then .error .hostCharacter
  else .ok (.domain (percentEncode [] cs))

end Gleaner.Url
