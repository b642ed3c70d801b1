import Gleaner.Charset.Big5Table
import Gleaner.Charset.EucKrTable
import Gleaner.Charset.GbTable
import Gleaner.Charset.Utf8

/-!
Charsets in which two bytes make most characters: GB 18030, which has sequences of four as well,
Big5 and EUC-KR. After a malformed pair reading goes on at its second byte, if that is ASCII.
-/
namespace Gleaner.Charset

/-- The character at a place of a table, unless the table has none there. -/
def tableChar? (rows : Array String) (row column : Nat) : Option Char :=
  ((rows[row]?).bind fun r => r.toList[column]?).filter (· ≠ Utf8.replacement)

/-- The column of a second byte: second bytes are 40 to `last`, without 7F. -/
def column? (last b : Nat) : Option Nat :=
  if 0x40 ≤ b && b < 0x7f then some (b - 0x40)
  else if 0x80 ≤ b && b ≤ last then some (b - 0x41)
  else none

def isDigitByte (b : Nat) : Bool := 0x30 ≤ b && b ≤ 0x39

def isGbLead (b : Nat) : Bool := 0x81 ≤ b && b ≤ 0xfe

/-- The character of a number in the runs of GB 18030. -/
def gbRunChar? (n : Nat) : Option Char :=
  if 189000 ≤ n && n < 189000 + 0x100000 then some (Char.ofNat (n - 189000 + 0x10000))
  else if n < 39420 then
    ((gbRuns.takeWhile fun r => r.1 ≤ n).getLast?).map fun r => Char.ofNat (r.2 + (n - r.1))
  else none

def decodeGb : List Nat → List Char
  | [] => []
  | a :: rest =>
    if a < 0x80 then Char.ofNat a :: decodeGb rest
    else if a = 0x80 then '€' :: decodeGb rest
    else if !isGbLead a then Utf8.replacement :: decodeGb rest
    else match rest with
      | [] => [Utf8.replacement]
      | b :: rest₂ =>
        if isDigitByte b then
          match rest₂ with
          | [] => [Utf8.replacement]
          | c :: rest₃ =>
            if isGbLead c then
              match rest₃ with
              | [] => [Utf8.replacement]
              | d :: rest₄ =>
                if isDigitByte d then
                  let n := (((a - 0x81) * 10 + (b - 0x30)) * 126 + (c - 0x81)) * 10 + (d - 0x30)
                  (gbRunChar? n).getD Utf8.replacement :: decodeGb rest₄
                else Utf8.replacement :: decodeGb (b :: c :: d :: rest₄)
            else Utf8.replacement :: decodeGb (b :: c :: rest₃)
        else match (column? 0xfe b).bind (tableChar? gbRows (a - 0x81)) with
          | some ch => ch :: decodeGb rest₂
          | none =>
            if b < 0x80 then Utf8.replacement :: decodeGb (b :: rest₂)
            else Utf8.replacement :: decodeGb rest₂

/-- A charset in which some bytes stand alone and others start a pair. A pair makes one character,
seldom two. -/
structure Pairs where
  single? : Nat → Option Char
  isLead : Nat → Bool
  pair? : Nat → Nat → Option (List Char)

def Pairs.decode (c : Pairs) : List Nat → List Char
  | [] => []
  | a :: rest =>
    match c.single? a with
    | some ch => ch :: c.decode rest
    | none =>
      if !c.isLead a then Utf8.replacement :: c.decode rest
      else match rest with
        | [] => [Utf8.replacement]
        | b :: rest₂ =>
          match c.pair? a b with
          | some cs => cs ++ c.decode rest₂
          | none =>
            if b < 0x80 then Utf8.replacement :: c.decode (b :: rest₂)
            else Utf8.replacement :: c.decode rest₂

def ascii? (b : Nat) : Option Char := if b < 0x80 then some (Char.ofNat b) else none

/-- The column of a second byte of Big5. -/
def big5Column? (b : Nat) : Option Nat :=
  if 0x40 ≤ b && b < 0x7f then some (b - 0x40)
  else if 0xa1 ≤ b && b ≤ 0xfe then some (b - 0x62)
  else none

/-- Pairs of Big5 that make a letter and a mark above it. -/
def big5Marked : List ((Nat × Nat) × List Char) :=
  [((0x88, 0x62), ['\u00ca', '\u0304']), ((0x88, 0x64), ['\u00ca', '\u030c']),
    ((0x88, 0xa3), ['\u00ea', '\u0304']), ((0x88, 0xa5), ['\u00ea', '\u030c'])]

def big5Pairs : Pairs where
  single? := ascii?
  isLead a := 0x81 ≤ a && a ≤ 0xfe
  pair? a b := (big5Marked.lookup (a, b)).or
    (((big5Column? b).bind (tableChar? big5Rows (a - 0x81))).map ([·]))

def eucKrPairs : Pairs where
  single? := ascii?
  isLead a := 0x81 ≤ a && a ≤ 0xfe
  pair? a b := if 0x41 ≤ b then (tableChar? eucKrRows (a - 0x81) (b - 0x41)).map ([·]) else none

end Gleaner.Charset
