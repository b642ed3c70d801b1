import Gleaner.Pattern.Basic

/-!
Reading patterns. A pattern has literals, classes, groups, alternatives, repetitions with a greedy
and a lazy form, conditions on places, and flags for the rest of a group. There is no looking ahead
or behind and no reference back to a group: such patterns are refused, as malformed ones are.
-/
namespace Gleaner.Pattern

structure Flags where
  ignoreCase : Bool := false
  multiLine : Bool := false
  dotNewline : Bool := false
  swapGreed : Bool := false
  unicode : Bool := true
  crlf : Bool := false
  verbose : Bool := false

/-- What is still to be read, the flags in force, and the groups met so far. -/
structure Reader where
  rest : List Char
  flags : Flags
  groups : Nat
  names : List (List Char)

namespace Reader

/-- Blanks and comments to the end of a line, which a verbose pattern may hold anywhere. -/
def passBlanks : (fuel : Nat) → List Char → List Char
  | 0, cs => cs
  | fuel + 1, cs =>
    match cs with
    | c :: rest =>
      if Text.isBlank c then passBlanks fuel rest
      else if c = '#' then passBlanks fuel (rest.dropWhile (· ≠ '\n'))
      else c :: rest
    | [] => []

def spaced (r : Reader) (cs : List Char) : List Char :=
  if r.flags.verbose then passBlanks (cs.length + 1) cs else cs

end Reader

/-- The meaning of an escape, of a literal character, or of a class name. -/
inductive Atom where
  | char (c : Char)
  | set (s : CharSet)
  | look (l : Look)

def metaChars : List Char :=
  ['\\', '.', '+', '*', '?', '(', ')', '|', '[', ']', '\x7b', '\x7d', '^', '$', '#', '&', '-', '~']

/-- Whether a backslash may stand before a character that means itself. -/
def isEscapable (c : Char) : Bool :=
  metaChars.contains c || (c.toNat < 128 && !c.isAlphanum && c ≠ '<' && c ≠ '>')

def scalar? (n : Nat) : Option Char := if h : n.isValidChar then some (Char.ofNatAux n h) else none

def hexScalar? (cs : List Char) : Option Char :=
  if cs.isEmpty || 8 < cs.length || !cs.all (fun c => (Text.hexValue? c).isSome) then none
  else scalar? (Text.hexNumber cs)

/-- The code after `\x`, `\u` or `\U`: so many digits, or any number of them in braces. -/
def hexEscape? (count : Nat) : List Char → Option (Char × List Char)
  | '\x7b' :: cs =>
    let digits := cs.takeWhile (· ≠ '\x7d')
    match cs.dropWhile (· ≠ '\x7d') with
    | _ :: rest => (hexScalar? digits).map (·, rest)
    | [] => none
  | cs => if cs.length < count then none else (hexScalar? (cs.take count)).map (·, cs.drop count)

/-- A property name without case, separators and a leading `is`. -/
def propertyName (cs : List Char) : String :=
  let s := (Text.looseName (String.ofList cs)).toList
  match s with
  | ['i', 's', 'c'] => "isc"
  | 'i' :: 's' :: rest => String.ofList rest
  | _ => String.ofList s

def property? (name : String) : Option CharSet :=
  let general := Text.categoryNamed? name
  let found :=
    if name = "cf" || name = "sc" || name = "lc" then general.or (Text.scriptNamed? name)
    else ((Text.propertyNamed? name).or general).or (Text.scriptNamed? name)
  found.map Text.Ranges.normal

def propertyValue? (name value : String) : Option CharSet :=
  let found := match name with
    | "gc" | "generalcategory" => Text.categoryNamed? value
    | "sc" | "script" | "scx" | "scriptextensions" => Text.scriptNamed? value
    | _ => none
  found.map Text.Ranges.normal

/-- Splits at the first place where `sep` stands. -/
def splitAtText? (sep : List Char) : List Char → Option (List Char × List Char)
  | [] => none
  | c :: cs =>
    if sep.isPrefixOf (c :: cs) then some ([], (c :: cs).drop sep.length)
    else (splitAtText? sep cs).map fun r => (c :: r.1, r.2)

/-- The set named after `\p`, and whether the name itself negates it. -/
def namedSet? (cs : List Char) : Option CharSet :=
  match splitAtText? ['!', '='] cs with
  | some (a, b) => (propertyValue? (propertyName a) (propertyName b)).map CharSet.complement
  | none =>
    match (splitAtText? [':'] cs).or (splitAtText? ['='] cs) with
    | some (a, b) => propertyValue? (propertyName a) (propertyName b)
    | none => property? (propertyName cs)

def digitSet (unicode : Bool) : CharSet := if unicode then Text.decimalDigits else [(0x30, 0x39)]

def blankSet (unicode : Bool) : CharSet :=
  if unicode then (Text.propertyNamed? "whitespace").getD [] else [(9, 13), (0x20, 0x20)]

def asciiWord : CharSet := [(0x30, 0x39), (0x41, 0x5a), (0x5f, 0x5f), (0x61, 0x7a)]

def wordSet (unicode : Bool) : CharSet := if unicode then Text.wordRanges.toList else asciiWord

/-- The set, or its complement, with letters of the other case if that is asked for. -/
def adjust (f : Flags) (negated : Bool) (s : CharSet) : CharSet :=
  let s := if f.ignoreCase then s.foldCase else s
  if negated then s.complement else s

/-- Sets that only work on characters, not on bytes, need every member to be ASCII without the flag
for Unicode. -/
def onlyAscii (f : Flags) (s : CharSet) : Option CharSet :=
  if f.unicode || s.all (fun r => r.2 < 128) then some s else none

/-- What a backslash and the text after it stand for. -/
def escape? (f : Flags) : List Char → Option (Atom × List Char)
  | [] => none
  | c :: cs =>
    let ascii := !f.unicode
    let perl := fun (s : CharSet) (negated : Bool) =>
      (onlyAscii f (if negated then s.complement else s)).map fun s => (Atom.set s, cs)
    match c with
    | 'd' => perl (digitSet f.unicode) false
    | 'D' => perl (digitSet f.unicode) true
    | 's' => perl (blankSet f.unicode) false
    | 'S' => perl (blankSet f.unicode) true
    | 'w' => perl (wordSet f.unicode) false
    | 'W' => perl (wordSet f.unicode) true
    | 'p' | 'P' =>
      if ascii then none
      else
        let named := match cs with
          | '\x7b' :: rest =>
            match rest.dropWhile (· ≠ '\x7d') with
            | _ :: after => (namedSet? (rest.takeWhile (· ≠ '\x7d'))).map (·, after)
            | [] => none
          | '\\' :: _ => none
          | d :: rest => (property? (propertyName [d])).map (·, rest)
          | [] => none
        named.map fun r => (.set (adjust f (c = 'P') r.1), r.2)
    | 'A' => some (.look .textStart, cs)
    | 'z' => some (.look .textEnd, cs)
    | 'B' => some (.look (.wordInside ascii), cs)
    | '<' => some (.look (.wordStart ascii), cs)
    | '>' => some (.look (.wordEnd ascii), cs)
    | 'b' =>
      let braced := match cs with
        | '\x7b' :: rest =>
          match rest.dropWhile (· ≠ '\x7d') with
          | _ :: after =>
            match String.ofList (rest.takeWhile (· ≠ '\x7d')) with
            | "start" => some (Look.wordStart ascii, after)
            | "end" => some (Look.wordEnd ascii, after)
            | "start-half" => some (Look.wordStartHalf ascii, after)
            | "end-half" => some (Look.wordEndHalf ascii, after)
            | _ => none
          | [] => none
        | _ => none
      match braced with
      | some (l, after) => some (.look l, after)
      | none => some (.look (.wordBoundary ascii), cs)
    | 'x' => (hexEscape? 2 cs).map fun r => (.char r.1, r.2)
    | 'u' => (hexEscape? 4 cs).map fun r => (.char r.1, r.2)
    | 'U' => (hexEscape? 8 cs).map fun r => (.char r.1, r.2)
    | 'a' => some (.char (Char.ofNat 7), cs)
    | 'f' => some (.char (Char.ofNat 12), cs)
    | 'v' => some (.char (Char.ofNat 11), cs)
    | 'n' => some (.char '\n', cs)
    | 'r' => some (.char '\r', cs)
    | 't' => some (.char '\t', cs)
    | _ => if isEscapable c then some (.char c, cs) else none

def asciiClass? (name : String) : Option CharSet :=
  match name with
  | "alnum" => some [(0x30, 0x39), (0x41, 0x5a), (0x61, 0x7a)]
  | "alpha" => some [(0x41, 0x5a), (0x61, 0x7a)]
  | "ascii" => some [(0, 0x7f)]
  | "blank" => some [(9, 9), (0x20, 0x20)]
  | "cntrl" => some [(0, 0x1f), (0x7f, 0x7f)]
  | "digit" => some [(0x30, 0x39)]
  | "graph" => some [(0x21, 0x7e)]
  | "lower" => some [(0x61, 0x7a)]
  | "print" => some [(0x20, 0x7e)]
  | "punct" => some [(0x21, 0x2f), (0x3a, 0x40), (0x5b, 0x60), (0x7b, 0x7e)]
  | "space" => some [(9, 13), (0x20, 0x20)]
  | "upper" => some [(0x41, 0x5a)]
  | "word" => some asciiWord
  | "xdigit" => some [(0x30, 0x39), (0x41, 0x46), (0x61, 0x66)]
  | _ => none

/-- A class such as `[:alpha:]` inside brackets, after its opening bracket. -/
def innerClass? (f : Flags) : List Char → Option (CharSet × List Char)
  | ':' :: cs =>
    let (negated, cs) := match cs with
      | '^' :: rest => (true, rest)
      | rest => (false, rest)
    let name := cs.takeWhile (· ≠ ':')
    match cs.dropWhile (· ≠ ':') with
    | ':' :: ']' :: rest =>
      (asciiClass? (String.ofList name)).map fun s => (adjust f negated s, rest)
    | _ => none
  | _ => none

inductive SetOp where
  | inter
  | diff
  | symmDiff

/-- Joins what stands before an operator with what stands after it. -/
def SetOp.join (f : Flags) (pending : Option (SetOp × CharSet)) (s : CharSet) : CharSet :=
  match pending with
  | none => s
  | some (op, t) =>
    let fold := fun s : CharSet => if f.ignoreCase then s.foldCase else s
    match op with
    | .inter => (fold t).inter (fold s)
    | .diff => (fold t).diff (fold s)
    | .symmDiff => (fold t).symmDiff (fold s)

/-- One character or class inside brackets. -/
def setItem? (r : Reader) : List Char → Option (Atom × List Char)
  | '\\' :: cs => escape? r.flags cs
  | c :: cs => some (.char c, cs)
  | [] => none

/-- A character, a range of them or a class inside brackets. -/
def setRange? (r : Reader) (cs : List Char) : Option (CharSet × List Char) := do
  let (first, rest) ← setItem? r cs
  let rest := r.spaced rest
  let single : Option (CharSet × List Char) := match first with
    | .char c => some (CharSet.ofChar c, rest)
    | .set s => some (s, rest)
    | .look _ => none
  match rest with
  | '-' :: after =>
    match r.spaced after with
    | ']' :: _ => single
    | '-' :: _ => single
    | [] => none
    | after =>
      let (last, after) ← setItem? r after
      match first, last with
      | .char a, .char b => if a.toNat ≤ b.toNat then some ([(a.toNat, b.toNat)], after) else none
      | _, _ => none
  | [] => none
  | _ => single

/-- Literal hyphens at the start of a bracketed class. -/
def leadingHyphens (r : Reader) : (fuel : Nat) → CharSet → List Char → CharSet × List Char
  | fuel + 1, s, '-' :: cs => leadingHyphens r fuel (CharSet.ofChar '-' ++ s) (r.spaced cs)
  | _, s, cs => (s, cs)

mutual

/-- A bracketed class after its opening bracket. -/
def bracket? (r : Reader) : (fuel : Nat) → List Char → Option (CharSet × List Char)
  | 0, _ => none
  | fuel + 1, cs =>
    let (negated, cs) := match r.spaced cs with
      | '^' :: rest => (true, r.spaced rest)
      | rest => (false, rest)
    let (start, cs) := leadingHyphens r cs.length [] cs
    let (start, cs) := match start, cs with
      | [], ']' :: rest => (CharSet.ofChar ']', rest)
      | s, rest => (s, rest)
    match members? r fuel none start cs with
    | some (s, rest) =>
      (onlyAscii r.flags (adjust r.flags negated (Text.Ranges.normal s))).map fun s => (s, rest)
    | none => none

/-- The members of a bracketed class up to its closing bracket. -/
def members? (r : Reader) : (fuel : Nat) → (pending : Option (SetOp × CharSet)) → CharSet →
    List Char → Option (CharSet × List Char)
  | 0, _, _, _ => none
  | fuel + 1, pending, s, cs =>
    let operator := fun (op : SetOp) (rest : List Char) =>
      members? r fuel (some (op, SetOp.join r.flags pending (Text.Ranges.normal s))) [] rest
    match r.spaced cs with
    | [] => none
    | ']' :: rest => some (SetOp.join r.flags pending (Text.Ranges.normal s), rest)
    | '[' :: rest =>
      match innerClass? r.flags rest with
      | some (t, rest) => members? r fuel pending (t ++ s) rest
      | none =>
        match bracket? r fuel rest with
        | some (t, rest) => members? r fuel pending (t ++ s) rest
        | none => none
    | '&' :: '&' :: rest => operator .inter rest
    | '-' :: '-' :: rest => operator .diff rest
    | '~' :: '~' :: rest => operator .symmDiff rest
    | cs =>
      match setRange? r cs with
      | some (t, rest) => members? r fuel pending (t ++ s) rest
      | none => none

end

def Flags.set? (f : Flags) (on : Bool) (c : Char) : Option Flags :=
  match c with
  | 'i' => some { f with ignoreCase := on }
  | 'm' => some { f with multiLine := on }
  | 's' => some { f with dotNewline := on }
  | 'U' => some { f with swapGreed := on }
  | 'u' => some { f with unicode := on }
  | 'R' => some { f with crlf := on }
  | 'x' => some { f with verbose := on }
  | _ => none

/-- Flag letters up to a colon or a closing parenthesis; a hyphen turns the ones after it off. The
answer also says whether a colon ended them. -/
def flags? (seen : List Char) (off dangling : Bool) (f : Flags) :
    List Char → Option (Flags × Bool × List Char)
  | [] => none
  | c :: cs =>
    if c = ':' then if dangling then none else some (f, true, cs)
    else if c = ')' then if dangling || seen.isEmpty then none else some (f, false, cs)
    else if seen.contains c then none
    else if c = '-' then flags? (c :: seen) true true f cs
    else match f.set? (!off) c with
      | some g => flags? (c :: seen) off false g cs
      | none => none

def isNameStart (c : Char) : Bool := c = '_' || c.isAlpha

def isNameChar (c : Char) : Bool :=
  c = '_' || c = '.' || c = '[' || c = ']' || c.isAlphanum

/-- A group name up to its closing angle bracket. -/
def groupName? (cs : List Char) : Option (List Char × List Char) :=
  let name := cs.takeWhile (· ≠ '>')
  match cs.dropWhile (· ≠ '>'), name with
  | _ :: rest, c :: more =>
    if isNameStart c && more.all isNameChar then some (name, rest) else none
  | _, _ => none

/-- A number of repetitions, blanks around it allowed. -/
def count? (cs : List Char) : Option (Nat × List Char) :=
  let cs := cs.dropWhile Text.isBlank
  let digits := cs.takeWhile Char.isDigit
  let n := digits.foldl (fun n c => 10 * n + (c.toNat - '0'.toNat)) 0
  if digits.isEmpty || UInt32.size ≤ n then none
  else some (n, (cs.dropWhile Char.isDigit).dropWhile Text.isBlank)

/-- The bounds in braces after their opening brace. -/
def bounds? (r : Reader) (cs : List Char) : Option ((Nat × Option Nat) × List Char) := do
  let (least, rest) ← count? (r.spaced cs)
  match rest with
  | '\x7d' :: rest => some ((least, some least), rest)
  | ',' :: rest =>
    match r.spaced rest with
    | '\x7d' :: rest => some ((least, none), rest)
    | rest =>
      let (most, rest) ← count? rest
      match rest with
      | '\x7d' :: rest => if least ≤ most then some ((least, some most), rest) else none
      | _ => none
  | _ => none

/-- A repetition of the last item of a sequence. An item `none` sets flags and cannot repeat. -/
def repeated? (f : Flags) (least : Nat) (most : Option Nat) (items : List (Option Expr))
    (rest : List Char) : Option (List (Option Expr) × List Char) :=
  let (lazily, rest) := match rest with
    | '?' :: after => (true, after)
    | after => (false, after)
  match items with
  | some e :: others => some (some (.times least most (lazily == f.swapGreed) e) :: others, rest)
  | _ => none

def literal (f : Flags) (c : Char) : Expr := .set (adjust f false (CharSet.ofChar c))

def Atom.expr (f : Flags) : Atom → Expr
  | .char c => literal f c
  | .set s => .set s
  | .look l => .look l

def dotSet (f : Flags) : CharSet :=
  if f.dotNewline then Text.complement []
  else if f.crlf then Text.complement [(10, 10), (13, 13)]
  else Text.complement [(10, 10)]

/-- The items read so far, last first, as one expression. -/
def ofItems (items : List (Option Expr)) : Expr :=
  match items.reverse.filterMap id with
  | [e] => e
  | es => .sequence es

def ofBranches (branches : List Expr) : Expr :=
  match branches with
  | [e] => e
  | es => .choice es.reverse

/-- Reads alternatives up to the end of the group they stand in. `depth` is the nesting allowed. -/
def alternatives? : (fuel depth : Nat) → (inGroup : Bool) → (branches : List Expr) →
    (items : List (Option Expr)) → Reader → Option (Expr × Reader)
  | 0, _, _, _, _, _ => none
  | fuel + 1, depth, inGroup, branches, items, r =>
    let go := fun (item : Option Expr) (r : Reader) =>
      alternatives? fuel depth inGroup branches (item :: items) r
    let again := fun (least : Nat) (most : Option Nat) (rest : List Char) =>
      match repeated? r.flags least most items rest with
      | some (items, rest) => alternatives? fuel depth inGroup branches items { r with rest }
      | none => none
    let group := fun (index : Option Nat) (inner : Reader) =>
      if depth = 0 then none
      else match alternatives? fuel (depth - 1) true [] [] inner with
        | some (e, after) =>
          go (some (match index with
            | some i => .group i e
            | none => .sequence [e])) { after with flags := r.flags }
        | none => none
    match r.spaced r.rest with
    | [] =>
      if inGroup then none
      else some (ofBranches (ofItems items :: branches), { r with rest := [] })
    | ')' :: rest =>
      if inGroup then some (ofBranches (ofItems items :: branches), { r with rest }) else none
    | '|' :: rest => alternatives? fuel depth inGroup (ofItems items :: branches) [] { r with rest }
    | '(' :: '?' :: rest =>
      let named := match rest with
        | 'P' :: '<' :: cs => some cs
        | '<' :: '=' :: _ => none
        | '<' :: '!' :: _ => none
        | '<' :: cs => some cs
        | _ => none
      match named with
      | some cs =>
        match groupName? cs with
        | some (name, rest) =>
          if r.names.contains name then none
          else
            let index := r.groups + 1
            group (some index) { r with rest, groups := index, names := name :: r.names }
        | none => none
      | none =>
        match flags? [] false false r.flags rest with
        | some (f, true, rest) => group none { r with rest, flags := f }
        | some (f, false, rest) => go none { r with rest, flags := f }
        | none => none
    | '(' :: rest =>
      let index := r.groups + 1
      group (some index) { r with rest, groups := index }
    | '*' :: rest => again 0 none rest
    | '+' :: rest => again 1 none rest
    | '?' :: rest => again 0 (some 1) rest
    | '\x7b' :: rest =>
      match bounds? r rest with
      | some ((least, most), rest) => again least most (r.spaced rest)
      | none => none
    | '[' :: rest =>
      match bracket? r (rest.length + 1) rest with
      | some (s, rest) => go (some (.set s)) { r with rest }
      | none => none
    | '.' :: rest =>
      if r.flags.unicode then go (some (.set (dotSet r.flags))) { r with rest } else none
    | '^' :: rest =>
      go (some (.look (if r.flags.multiLine then .lineStart r.flags.crlf else .textStart)))
        { r with rest }
    | '$' :: rest =>
      go (some (.look (if r.flags.multiLine then .lineEnd r.flags.crlf else .textEnd)))
        { r with rest }
    | '\\' :: rest =>
      match escape? r.flags rest with
      | some (a, rest) => go (some (a.expr r.flags)) { r with rest }
      | none => none
    | c :: rest => go (some (literal r.flags c)) { r with rest }

/-- The expression that a whole pattern text stands for, and the number of its groups. -/
def Expr.parse? (text : String) : Option (Expr × Nat) :=
  let cs := text.toList
  let start : Reader := { rest := cs, flags := {}, groups := 0, names := [] }
  (alternatives? (cs.length + 1) 250 false [] [] start).map fun r => (r.1, r.2.groups)

end Gleaner.Pattern
