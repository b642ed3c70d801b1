import Gleaner.Json.Basic
import Gleaner.Decimal.Layout

/-!
JSON text: a compact form on one line and an indented one. Doubles always show a point or an
exponent, so that they are told from integers; those that are no numbers print as `null`.
-/
namespace Gleaner.Json

def escapedChar (c : Char) : List Char :=
  if c = '"' then ['\\', '"']
  else if c = '\\' then ['\\', '\\']
  else if c.toNat = 8 then ['\\', 'b']
  else if c.toNat = 12 then ['\\', 'f']
  else if c = '\n' then ['\\', 'n']
  else if c = '\r' then ['\\', 'r']
  else if c = '\t' then ['\\', 't']
  else if c.toNat < 0x20 then
    ['\\', 'u', '0', '0', Nat.digitChar (c.toNat / 16), Nat.digitChar (c.toNat % 16)]
  else [c]

def stringText (s : String) : List Char := '"' :: s.toList.flatMap escapedChar ++ ['"']

def Number.text : Number → List Char
  | .int n => (toString n).toList
  | .real x =>
    if x.isNaN || x.isInf then "null".toList
    else Decimal.finiteText .json x.toBits.toNat

mutual

def compactChars : Json → List Char
  | .null => "null".toList
  | .bool true => "true".toList
  | .bool false => "false".toList
  | .num n => n.text
  | .str s => stringText s
  | .arr [] => ['[', ']']
  | .arr (j :: js) => '[' :: compactChars j ++ compactItems js
  | .obj [] => ['\x7b', '\x7d']
  | .obj ((k, j) :: ms) => '\x7b' :: stringText k ++ ':' :: compactChars j ++ compactMembers ms

def compactItems : List Json → List Char
  | [] => [']']
  | j :: js => ',' :: compactChars j ++ compactItems js

def compactMembers : List (String × Json) → List Char
  | [] => ['\x7d']
  | (k, j) :: ms => ',' :: stringText k ++ ':' :: compactChars j ++ compactMembers ms

end

/-- The text without any blank outside strings. -/
def compact (j : Json) : String := String.ofList (compactChars j)

def newline (depth : Nat) : List Char := '\n' :: List.replicate (2 * depth) ' '

mutual

def prettyChars (depth : Nat) : Json → List Char
  | .arr (j :: js) =>
    '[' :: newline (depth + 1) ++ prettyChars (depth + 1) j ++ prettyItems depth js
  | .obj ((k, j) :: ms) =>
    '\x7b' :: newline (depth + 1) ++ stringText k ++ ':' :: ' ' :: prettyChars (depth + 1) j ++
      prettyMembers depth ms
  | .null => "null".toList
  | .bool true => "true".toList
  | .bool false => "false".toList
  | .num n => n.text
  | .str s => stringText s
  | .arr [] => ['[', ']']
  | .obj [] => ['\x7b', '\x7d']

def prettyItems (depth : Nat) : List Json → List Char
  | [] => newline depth ++ [']']
  | j :: js => ',' :: newline (depth + 1) ++ prettyChars (depth + 1) j ++ prettyItems depth js

def prettyMembers (depth : Nat) : List (String × Json) → List Char
  | [] => newline depth ++ ['\x7d']
  | (k, j) :: ms =>
    ',' :: newline (depth + 1) ++ stringText k ++ ':' :: ' ' :: prettyChars (depth + 1) j ++
      prettyMembers depth ms

end

/-- The text with every member and item on a line of its own, two spaces deeper than its owner. -/
def pretty (j : Json) : String := String.ofList (prettyChars 0 j)

end Gleaner.Json
