import Gleaner.Charset.Utf8
import Gleaner.Decimal.Read
import Gleaner.Text.Ranges

/-!
Tokens of selectors. Brackets come as trees, each with what stands in it up to its end or that of
the text.
-/
namespace Gleaner.Css

inductive Bracket where
  | round
  | square
  | curly
  | function (name : String)
  deriving DecidableEq, Repr

inductive Token where
  | blank
  | ident (name : String)
  /-- The flag tells whether the name could be an identifier. -/
  | hash (name : String) (isId : Bool)
  | string (s : String)
  /-- A number, when it is an integer, with its unit. -/
  | number (value : Option Int) (signed : Bool) (unit : String)
  | delim (c : Char)
  /-- A sign before an equals sign. -/
  | relation (c : Char)
  | opening (b : Bracket)
  | closing (c : Char)
  | bad
  deriving DecidableEq, Repr

def isSpace (c : Char) : Bool := c = ' ' || c = '\t' || c = '\n' || c = '\x0c' || c = '\r'

def isNameStart (c : Char) : Bool := c.isAlpha || c = '_' || 0x80 ≤ c.toNat || c.toNat = 0

def isNameChar (c : Char) : Bool := isNameStart c || c.isDigit || c = '-'

/-- Whether a backslash that is followed by the text is an escape. -/
def isEscape : List Char → Bool
  | c :: _ => !(c = '\n' || c = '\x0c' || c = '\r')
  | [] => true

/-- Whether an identifier starts here. -/
def startsIdent : List Char → Bool
  | '-' :: '-' :: _ => true
  | '-' :: '\\' :: cs => isEscape cs
  | '-' :: c :: _ => isNameStart c
  | '\\' :: cs => isEscape cs
  | c :: _ => isNameStart c
  | [] => false

def codeChar (n : Nat) : Char :=
  if n = 0 || 0x10ffff < n || (0xd800 ≤ n && n < 0xe000) then Utf8.replacement else Char.ofNat n

/-- The character of an escape, behind its backslash, and the rest. -/
def readEscape (cs : List Char) : Char × List Char :=
  let digits := (cs.take 6).takeWhile fun c => (Text.hexValue? c).isSome
  match digits with
  | [] =>
    match cs with
    | c :: rest => (if c.toNat = 0 then Utf8.replacement else c, rest)
    | [] => (Utf8.replacement, [])
  | _ =>
    let rest := match cs.drop digits.length with
      | '\r' :: '\n' :: rest => rest
      | c :: rest => if isSpace c then rest else c :: rest
      | [] => []
    (codeChar (Text.hexNumber digits), rest)

/-- A name and the rest. -/
def readName : (fuel : Nat) → (acc : List Char) → List Char → String × List Char
  | 0, acc, cs => (String.ofList acc.reverse, cs)
  | fuel + 1, acc, cs =>
    match cs with
    | '\\' :: rest =>
      if isEscape rest then
        let (c, rest) := readEscape rest
        readName fuel (c :: acc) rest
      else (String.ofList acc.reverse, cs)
    | c :: rest =>
      if isNameChar c then
        readName fuel ((if c.toNat = 0 then Utf8.replacement else c) :: acc) rest
      else (String.ofList acc.reverse, cs)
    | [] => (String.ofList acc.reverse, [])

/-- A string behind its opening quote. A line end spoils it. -/
def readString (quote : Char) : (fuel : Nat) → (acc : List Char) → List Char → Token × List Char
  | 0, _, cs => (.bad, cs)
  | fuel + 1, acc, cs =>
    match cs with
    | [] => (.string (String.ofList acc.reverse), [])
    | '\\' :: '\r' :: '\n' :: rest => readString quote fuel acc rest
    | '\\' :: [] => (.string (String.ofList acc.reverse), [])
    | '\\' :: c :: rest =>
      if isEscape (c :: rest) then
        let (c, rest) := readEscape (c :: rest)
        readString quote fuel (c :: acc) rest
      else readString quote fuel acc rest
    | c :: rest =>
      if c = quote then (.string (String.ofList acc.reverse), rest)
      else if c = '\n' || c = '\x0c' || c = '\r' then (.bad, cs)
      else readString quote fuel ((if c.toNat = 0 then Utf8.replacement else c) :: acc) rest

/-- Whether a number starts here. -/
def startsNumber : List Char → Bool
  | '.' :: d :: _ => d.isDigit
  | c :: cs =>
    c.isDigit || ((c = '+' || c = '-') && match cs with
      | '.' :: d :: _ => d.isDigit
      | d :: _ => d.isDigit
      | [] => false)
  | [] => false

def clamp (n : Int) : Int := max (-2147483648) (min 2147483647 n)

/-- A number, with a unit if one follows. -/
def readNumber (fuel : Nat) (cs : List Char) : Token × List Char :=
  let (sign, rest) := match cs with
    | '+' :: r => (some '+', r)
    | '-' :: r => (some '-', r)
    | r => (none, r)
  let digits := rest.takeWhile Char.isDigit
  let rest := rest.drop digits.length
  let (isWhole, rest) := match rest with
    | '.' :: d :: r => if d.isDigit then (false, r.dropWhile Char.isDigit) else (true, rest)
    | r => (true, r)
  let exponent := match rest with
    | e :: s :: d :: r =>
      if e = 'e' || e = 'E' then
        if s.isDigit then some (d :: r)
        else if (s = '+' || s = '-') && d.isDigit then some r
        else none
      else none
    | [e, s] => if (e = 'e' || e = 'E') && s.isDigit then some [] else none
    | _ => none
  let (isWhole, rest) := match exponent with
    | some r => (false, r.dropWhile Char.isDigit)
    | none => (isWhole, rest)
  let n : Int := Decimal.digitsValue digits
  let value := if isWhole then some (clamp (if sign == some '-' then -n else n)) else none
  match rest with
  | '%' :: r => (.bad, r)
  | r =>
    if startsIdent r then
      let (unit, r) := readName fuel [] r
      (.number value sign.isSome unit, r)
    else (.number value sign.isSome "", r)

/-- What follows a remark, whose opening is already read. -/
def afterRemark : List Char → List Char
  | '*' :: '/' :: cs => cs
  | _ :: cs => afterRemark cs
  | [] => []

/-- The first token, if the text has not come to its end; a remark is none. -/
def Token.next (fuel : Nat) (cs : List Char) : Option Token × List Char :=
  match cs with
  | [] => (none, [])
  | '/' :: '*' :: rest => (none, afterRemark rest)
  | '-' :: '-' :: '>' :: rest => (some .bad, rest)
  | '<' :: '!' :: '-' :: '-' :: rest => (some .bad, rest)
  | '#' :: rest =>
    if startsIdent rest then let (n, r) := readName fuel [] rest; (some (.hash n true), r)
    else match rest with
      | c :: _ =>
        if isNameChar c then let (n, r) := readName fuel [] rest; (some (.hash n false), r)
        else (some (.delim '#'), rest)
      | [] => (some (.delim '#'), [])
  | c :: rest =>
    if isSpace c then (some .blank, rest.dropWhile isSpace)
    else if c = '"' || c = '\'' then
      let (t, r) := readString c fuel [] rest
      (some t, r)
    else if startsNumber cs then
      let (t, r) := readNumber fuel cs
      (some t, r)
    else if startsIdent cs then
      let (n, r) := readName fuel [] cs
      match r with
      | '(' :: r => (some (.opening (.function n)), r)
      | r => (some (.ident n), r)
    else if c = '(' then (some (.opening .round), rest)
    else if c = '[' then (some (.opening .square), rest)
    else if c = '\x7b' then (some (.opening .curly), rest)
    else if c = ')' || c = ']' || c = '\x7d' then (some (.closing c), rest)
    else match rest with
      | '=' :: r =>
        if ['~', '|', '^', '$', '*'].contains c then (some (.relation c), r)
        else (some (.delim c), rest)
      | _ => (some (.delim c), rest)

/-- All tokens of a text. Each takes a character at least. -/
def tokensFrom : (fuel : Nat) → List Char → List Token
  | 0, _ => []
  | fuel + 1, cs =>
    if cs.isEmpty then []
    else
      let (t, rest) := Token.next (cs.length + 1) cs
      match t with
      | some t => t :: tokensFrom fuel rest
      | none => tokensFrom fuel rest

/-- A token, or a bracket with what stands in it. -/
inductive Tree where
  | token (t : Token)
  | block (b : Bracket) (inner : List Tree)

def Bracket.closer : Bracket → Char
  | .round => ')'
  | .square => ']'
  | .curly => '\x7d'
  | .function _ => ')'

/-- Trees up to a closing bracket, last first onto those that are read; and the tokens behind it. -/
def treesFrom (closer : Option Char) : (fuel : Nat) → (acc : List Tree) → List Token →
    List Tree × List Token
  | 0, acc, ts => (acc.reverse, ts)
  | _ + 1, acc, [] => (acc.reverse, [])
  | fuel + 1, acc, t :: ts =>
    match t with
    | .opening b =>
      let (inner, rest) := treesFrom (some b.closer) fuel [] ts
      treesFrom closer fuel (.block b inner :: acc) rest
    | .closing c =>
      if closer == some c then (acc.reverse, ts)
      else treesFrom closer fuel (.token (.closing c) :: acc) ts
    | t => treesFrom closer fuel (.token t :: acc) ts

def trees (text : String) : List Tree :=
  let cs := text.toList
  let ts := tokensFrom (cs.length + 1) cs
  (treesFrom none (ts.length + 1) [] ts).1

end Gleaner.Css
