import Gleaner.Css.Selector
import Gleaner.Css.Token

/-!
Reading selectors. A text that is no selector throughout is none (`Selector.parse?`).
-/
namespace Gleaner.Css

def isBlankTree : Tree → Bool
  | .token .blank => true
  | _ => false

def skipBlanks (ts : List Tree) : List Tree := ts.dropWhile isBlankTree

def lowerName (s : String) : String := String.ofList (s.toList.map Char.toLower)

/-! ### Places among siblings -/

/-- Digits behind `n-`. -/
def dashDigits? (s : List Char) : Option Int :=
  match s with
  | n :: '-' :: ds =>
    if n.toLower = 'n' && !ds.isEmpty && ds.all Char.isDigit then
      some (clamp (-(Decimal.digitsValue ds : Int)))
    else none
  | _ => none

/-- A number without a sign, times a sign. -/
def unsignedPart? (a sign : Int) (ts : List Tree) : Option (Int × Int × List Tree) :=
  match skipBlanks ts with
  | .token (.number (some b) false "") :: rest => some (a, sign * b, rest)
  | _ => none

/-- What may be added to a multiple of `n`. -/
def addedPart? (a : Int) (ts : List Tree) : Option (Int × Int × List Tree) :=
  match skipBlanks ts with
  | .token (.delim '+') :: rest => unsignedPart? a 1 rest
  | .token (.delim '-') :: rest => unsignedPart? a (-1) rest
  | .token (.number (some b) true "") :: rest => some (a, b, rest)
  | _ => some (a, 0, ts)

/-- A multiple that ends in a name with `n`. -/
def multiple? (a : Int) (unit : String) (rest : List Tree) : Option (Int × Int × List Tree) :=
  match lowerName unit with
  | "n" => addedPart? a rest
  | "n-" => unsignedPart? a (-1) rest
  | _ => (dashDigits? unit.toList).map fun b => (a, b, rest)

/-- The `a` and `b` of a place, and the rest. -/
def place? (ts : List Tree) : Option (Int × Int × List Tree) :=
  let word := fun (name : String) (rest : List Tree) =>
    match lowerName name with
    | "even" => some (2, 0, rest)
    | "odd" => some (2, 1, rest)
    | _ => multiple? 1 name rest
  match skipBlanks ts with
  | .token (.number (some b) _ "") :: rest => some (0, b, rest)
  | .token (.number (some a) _ unit) :: rest => multiple? a unit rest
  | .token (.ident name) :: rest =>
    match name.toList with
    | '-' :: cs => multiple? (-1) (String.ofList cs) rest
    | _ => word name rest
  | .token (.delim '+') :: .token (.ident name) :: rest => word name rest
  | _ => none

/-! ### Attributes -/

/-- Attributes of markup in whose values case does not count. -/
def looseAttrs : List String :=
  ["accept", "accept-charset", "align", "alink", "axis", "bgcolor", "charset", "checked", "clear",
    "codetype", "color", "compact", "declare", "defer", "dir", "direction", "disabled", "enctype",
    "face", "frame", "hreflang", "http-equiv", "lang", "language", "link", "media", "method",
    "multiple", "nohref", "noresize", "noshade", "nowrap", "readonly", "rel", "rev", "rules",
    "scope", "scrolling", "selected", "shape", "target", "text", "type", "valign", "valuetype",
    "vlink"]

def operator? : Tree → Option AttrOperator
  | .token (.delim '=') => some .equals
  | .token (.relation '~') => some .includes
  | .token (.relation '|') => some .dashed
  | .token (.relation '^') => some .starts
  | .token (.relation '$') => some .ends
  | .token (.relation '*') => some .contains
  | _ => none

/-- The name in an attribute test, whether its namespace is left open, and the rest. -/
def attrName? (ts : List Tree) : Option (String × Bool × List Tree) :=
  match skipBlanks ts with
  | .token (.ident _) :: .token (.delim '|') :: _ => none
  | .token (.ident name) :: rest => some (name, false, rest)
  | .token (.delim '*') :: .token (.delim '|') :: .token (.ident name) :: rest =>
    some (name, true, rest)
  | .token (.delim '|') :: .token (.ident name) :: rest => some (name, false, rest)
  | _ => none

def attrTest? (ts : List Tree) : Option AttrTest := do
  let (name, anySpace, rest) ← attrName? ts
  match skipBlanks rest with
  | [] => some ⟨name, anySpace, none⟩
  | t :: rest =>
    let op ← operator? t
    let (value, rest) ← match skipBlanks rest with
      | .token (.ident s) :: rest => some (s, rest)
      | .token (.string s) :: rest => some (s, rest)
      | _ => none
    let byName := if !anySpace && looseAttrs.contains (lowerName name) then CaseRule.ignoredInMarkup
      else .counts
    match skipBlanks rest with
    | [] => some ⟨name, anySpace, some (op, value, byName)⟩
    | .token (.ident flag) :: rest =>
      if !(skipBlanks rest).isEmpty then none
      else match lowerName flag with
        | "i" => some ⟨name, anySpace, some (op, value, .ignored)⟩
        | "s" => some ⟨name, anySpace, some (op, value, .counts)⟩
        | _ => none
    | _ => none

/-! ### Selectors -/

/-- A pseudo-class without arguments. Those that hang on a user never hold. -/
def pseudoClass? (name : String) : Option (List Simple) :=
  match lowerName name with
  | "first-child" => some [.nth 0 1 false false]
  | "last-child" => some [.nth 0 1 false true]
  | "only-child" => some [.nth 0 1 false false, .nth 0 1 false true]
  | "first-of-type" => some [.nth 0 1 true false]
  | "last-of-type" => some [.nth 0 1 true true]
  | "only-of-type" => some [.nth 0 1 true false, .nth 0 1 true true]
  | "root" | "scope" => some [.root]
  | "empty" => some [.empty]
  | "any-link" | "link" => some [.link]
  | "only-text" => some [.onlyText]
  | "visited" | "active" | "focus" | "hover" | "enabled" | "disabled" | "checked"
  | "indeterminate" => some [.never]
  | _ => none

def splitCommas : List Tree → List (List Tree)
  | [] => [[]]
  | .token (.delim ',') :: ts => [] :: splitCommas ts
  | t :: ts =>
    match splitCommas ts with
    | [] => [[t]]
    | part :: parts => (t :: part) :: parts

/-- The combinator that comes next, if one does, and the rest. Blanks are one if nothing else is. -/
def combinator? (ts : List Tree) : Option (Combinator × List Tree) :=
  match skipBlanks ts with
  | .token (.delim '>') :: rest => some (.child, rest)
  | .token (.delim '+') :: rest => some (.next, rest)
  | .token (.delim '~') :: rest => some (.later, rest)
  | [] => none
  | rest => if ts.head?.any isBlankTree then some (.descendant, rest) else none

/-- The type selector that comes next: nothing, when none does. -/
def typePart? (ts : List Tree) : Option (List Simple × List Tree) :=
  match ts with
  | .token (.ident _) :: .token (.delim '|') :: _ => none
  | .token (.ident name) :: rest => some ([.type name], rest)
  | .token (.delim '*') :: .token (.delim '|') :: .token (.ident name) :: rest =>
    some ([.type name], rest)
  | .token (.delim '*') :: .token (.delim '|') :: .token (.delim '*') :: rest =>
    some ([.universal], rest)
  | .token (.delim '*') :: .token (.delim '|') :: _ => none
  | .token (.delim '*') :: rest => some ([.universal], rest)
  | .token (.delim '|') :: .token (.ident _) :: rest => some ([.never], rest)
  | .token (.delim '|') :: .token (.delim '*') :: rest => some ([.never], rest)
  | .token (.delim '|') :: _ => none
  | _ => some ([], ts)

/-- Which text an argument in quotes gives. -/
def textArgument? (inner : List Tree) : Option String :=
  match skipBlanks inner with
  | .token (.string s) :: rest => if (skipBlanks rest).isEmpty then some s else none
  | _ => none

def nthArgument? (ofType fromEnd : Bool) (inner : List Tree) : Option Simple :=
  match place? inner with
  | some (a, b, rest) => if (skipBlanks rest).isEmpty then some (.nth a b ofType fromEnd) else none
  | none => none

/-- Tokens that spoil even a list that forgives. -/
def isSpoiled : Tree → Bool
  | .token .bad => true
  | .token (.closing _) => true
  | _ => false

mutual

/-- One pseudo-class with arguments. -/
def functional? (inHas : Bool) : (fuel : Nat) → (name : String) → List Tree → Option Simple
  | 0, _, _ => none
  | fuel + 1, name, inner =>
    match lowerName name with
    | "nth-child" => nthArgument? false false inner
    | "nth-last-child" => nthArgument? false true inner
    | "nth-of-type" => nthArgument? true false inner
    | "nth-last-of-type" => nthArgument? true true inner
    | "is" | "where" => (forgiving? inHas fuel (splitCommas inner)).map .among
    | "not" => (list? inHas fuel (splitCommas inner)).map .notAmong
    | "has" => if inHas then none else (relatives? fuel (splitCommas inner)).map .has
    | "contains" => (textArgument? inner).map .contains
    | "has-text" => (textArgument? inner).map .hasText
    | _ => none

/-- The simple selectors that come next, onto those read, and the rest. -/
def simples? (inHas : Bool) :
    (fuel : Nat) → List Simple → List Tree → Option (List Simple × List Tree)
  | 0, _, _ => none
  | fuel + 1, acc, ts =>
    match ts with
    | .token (.hash name true) :: rest => simples? inHas fuel (acc ++ [.id name]) rest
    | .token (.delim '.') :: .token (.ident name) :: rest =>
      simples? inHas fuel (acc ++ [.cls name]) rest
    | .token (.delim '.') :: _ => none
    | .block .square inner :: rest => do
      let test ← attrTest? inner
      simples? inHas fuel (acc ++ [.attr test]) rest
    | .token (.delim ':') :: .token (.ident name) :: rest => do
      let found ← pseudoClass? name
      simples? inHas fuel (acc ++ found) rest
    | .token (.delim ':') :: .block (.function name) inner :: rest => do
      let found ← functional? inHas fuel name inner
      simples? inHas fuel (acc ++ [found]) rest
    | .token (.delim ':') :: _ => none
    | rest => some (acc, rest)

/-- The compound that comes next, which is not empty, and the rest. -/
def compound? (inHas : Bool) : (fuel : Nat) → List Tree → Option (Compound × List Tree)
  | 0, _ => none
  | fuel + 1, ts => do
    let (first, rest) ← typePart? (skipBlanks ts)
    let (all, rest) ← simples? inHas fuel first rest
    if all.isEmpty then none else some (all, rest)

/-- Reads compounds up to the end, onto the selector to their left, which the combinator links. -/
def compounds? (inHas : Bool) : (fuel : Nat) → (left : Complex) → Combinator → List Tree →
    Option Complex
  | 0, _, _, _ => none
  | fuel + 1, left, combinator, ts => do
    let (c, rest) ← compound? inHas fuel ts
    let all := (combinator, c) :: left
    match combinator? rest with
    | some (combinator, rest) => compounds? inHas fuel all combinator rest
    | none => if (skipBlanks rest).isEmpty then some all else none

/-- Selectors that must all be well formed. -/
def list? (inHas : Bool) : (fuel : Nat) → List (List Tree) → Option (List Complex)
  | 0, _ => none
  | _ + 1, [] => some []
  | fuel + 1, part :: parts => do
    let c ← compounds? inHas fuel [] .descendant part
    let rest ← list? inHas fuel parts
    some (c :: rest)

/-- Selectors of which those that are malformed count for nothing. -/
def forgiving? (inHas : Bool) : (fuel : Nat) → List (List Tree) → Option (List Complex)
  | 0, _ => none
  | _ + 1, [] => some []
  | fuel + 1, part :: parts => do
    let rest ← forgiving? inHas fuel parts
    match compounds? inHas fuel [] .descendant part with
    | some c => some (c :: rest)
    | none => if part.any isSpoiled then none else some rest

/-- Selectors that start from an element. -/
def relatives? : (fuel : Nat) → List (List Tree) → Option (List Complex)
  | 0, _ => none
  | _ + 1, [] => some []
  | fuel + 1, part :: parts => do
    let (combinator, rest) := (combinator? (skipBlanks part)).getD (.descendant, part)
    let c ← compounds? true fuel [(.descendant, [.anchor])] combinator rest
    let others ← relatives? fuel parts
    some (c :: others)

end

mutual

/-- The number of tokens and brackets. -/
def Tree.size : Tree → Nat
  | .token _ => 1
  | .block _ inner => sizeOfTrees inner + 1

def sizeOfTrees : List Tree → Nat
  | [] => 0
  | t :: ts => t.size + sizeOfTrees ts

end

/-- The selector that a text writes. No reading goes deeper than four times its tokens. -/
def Selector.parse? (text : String) : Option Selector :=
  let ts := trees text
  (list? false (4 * sizeOfTrees ts + 8) (splitCommas ts)).map fun choices => ⟨choices⟩

end Gleaner.Css
