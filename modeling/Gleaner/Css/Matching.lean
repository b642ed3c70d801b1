import Gleaner.Css.Selector
import Gleaner.Html.Document
import Gleaner.Text.Blank
import Gleaner.Text.Infix

/-!
Which elements a selector means. The document node stands above the outermost element and counts as
an element without name and attributes there; it is what `:root` means.
-/
namespace Gleaner.Css

open Html

def lower (s : String) : String := String.ofList (s.toList.map Char.toLower)

def isAttrSpace (c : Char) : Bool := c = ' ' || c = '\t' || c = '\n' || c = '\x0c' || c = '\r'

/-- The words of an attribute. -/
def attrWords (s : String) : List String :=
  (Text.runsOutside isAttrSpace s.toList []).map String.ofList

/-- Whether a value passes; a test for an empty part, or for a word with blanks, never holds. -/
def AttrOperator.test (op : AttrOperator) (wanted value : String) : Bool :=
  let w := wanted.toList
  let v := value.toList
  match op with
  | .equals => v == w
  | .includes => !w.isEmpty && !w.any isAttrSpace && (attrWords value).contains wanted
  | .dashed => v == w || (w ++ ['-']).isPrefixOf v
  | .starts => !w.isEmpty && w.isPrefixOf v
  | .ends => !w.isEmpty && w.isSuffixOf v
  | .contains => !w.isEmpty && Text.isInfix w v

def AttrTest.holds (t : AttrTest) (e : Element) : Bool :=
  let isMarkup := e.space = .html
  let name := if isMarkup then lower t.name else t.name
  e.attrs.any fun a =>
    a.name = name && (t.anySpace || !a.qualified) &&
      match t.value with
      | none => true
      | some (op, wanted, rule) =>
        if rule = .ignored || (rule = .ignoredInMarkup && isMarkup) then
          op.test (lower wanted) (lower a.value)
        else op.test wanted a.value

def isElement (d : Document) (i : Nat) : Bool := (d.element? i).isSome

/-- The elements that share a parent, in order. -/
def siblings (d : Document) (i : Nat) : List Nat :=
  match d.parent? i with
  | some p => (d.children p).toList.filter (isElement d)
  | none => [i]

def sameType (d : Document) (i j : Nat) : Bool :=
  match d.element? i, d.element? j with
  | some a, some b => a.space = b.space && a.name = b.name
  | _, _ => false

/-- The place of a node among its siblings, from 1. -/
def placeOf (d : Document) (ofType fromEnd : Bool) (i : Nat) : Nat :=
  let all := if ofType then (siblings d i).filter fun j => j = i || sameType d i j else siblings d i
  let ordered := if fromEnd then all.reverse else all
  ordered.idxOf i + 1

/-- Whether a place is `a * n + b` for a natural `n`. -/
def isPlace (a b : Int) (place : Nat) : Bool :=
  let off := (place : Int) - b
  if a = 0 then off = 0 else off % a = 0 && 0 ≤ off / a

/-- The parent of a node, then its parent, and so on. -/
def ancestors (d : Document) : (fuel : Nat) → Nat → List Nat
  | 0, _ => []
  | fuel + 1, i =>
    match d.parent? i with
    | some p => p :: ancestors d fuel p
    | none => []

/-- The siblings before a node, the nearest first. -/
def before (d : Document) (i : Nat) : List Nat := ((siblings d i).takeWhile (· != i)).reverse

def after (d : Document) (i : Nat) : List Nat := ((siblings d i).dropWhile (· != i)).drop 1

/-- The nodes to which a node stands as a combinator says. -/
def linked (d : Document) (c : Combinator) (i : Nat) : List Nat :=
  match c with
  | .descendant => ancestors d d.nodes.size i
  | .child => (d.parent? i).toList
  | .next => (before d i).take 1
  | .later => before d i

/-- The elements that a selector relative to a node can mean. -/
def reachable (d : Document) (i : Nat) : List Nat :=
  (d.below i ++ (after d i).flatMap fun j => j :: d.below j).filter (isElement d)

def hasNoContent (d : Document) (i : Nat) : Bool :=
  (d.children i).all fun j =>
    match d.content? j with
    | some (.element _) => false
    | some (.text s) => Text.blank s
    | _ => true

def hasOnlyText (d : Document) (i : Nat) : Bool :=
  match (d.children i).toList with
  | [j] => (d.text? j).any fun s => !Text.blank s
  | _ => false

def isLink (e : Element) : Bool :=
  ["a", "area", "link"].contains e.name && e.attrs.any fun a => a.name = "href"

mutual

/-- Whether a simple selector means a node; `start` is what relative selectors start from. -/
def holds (d : Document) : Simple → (start : Option Nat) → Nat → Bool
  | .universal, _, _ => true
  | .never, _, _ => false
  | .type name, _, i => (d.element? i).any fun e =>
      e.name = if e.space = .html then lower name else name
  | .id name, _, i => (d.element? i).any fun e => Document.attr? e "id" = some name
  | .cls name, _, i => (d.element? i).any fun e =>
      (Document.attr? e "class").any fun v => (attrWords v).contains name
  | .attr test, _, i => (d.element? i).any test.holds
  | .nth a b ofType fromEnd, _, i => isPlace a b (placeOf d ofType fromEnd i)
  | .root, _, i => i = Document.root
  | .empty, _, i => isElement d i && hasNoContent d i
  | .link, _, i => (d.element? i).any isLink
  | .onlyText, _, i => hasOnlyText d i
  | .contains text, _, i => Text.containsText (d.textOf i) text
  | .hasText text, _, i =>
    (i :: d.below i).any fun j => (d.text? j).any fun s => Text.containsText s text
  | .anchor, start, i => start = some i
  | .among choices, start, i => holdsAny d choices start i
  | .notAmong choices, start, i => !holdsAny d choices start i
  | .has relatives, _, i => (reachable d i).any fun j => holdsAny d relatives (some i) j

def holdsAll (d : Document) : List Simple → (start : Option Nat) → Nat → Bool
  | [], _, _ => true
  | s :: rest, start, i => holds d s start i && holdsAll d rest start i

/-- Whether a complex selector means a node: its first compound does, and the rest means one of the
nodes to which the node stands as the combinator says. -/
def holdsComplex (d : Document) :
    List (Combinator × List Simple) → (start : Option Nat) → Nat → Bool
  | [], _, _ => true
  | (c, simples) :: rest, start, i =>
    holdsAll d simples start i &&
      (rest.isEmpty || (linked d c i).any fun j => holdsComplex d rest start j)

def holdsAny (d : Document) :
    List (List (Combinator × List Simple)) → (start : Option Nat) → Nat → Bool
  | [], _, _ => false
  | c :: rest, start, i => holdsComplex d c start i || holdsAny d rest start i

end

/-- Whether a selector means a node. -/
def Selector.holds (s : Selector) (d : Document) (i : Nat) : Bool := holdsAny d s.choices none i

/-- The elements that stand below any of some nodes, in document order. -/
def candidates (d : Document) (scope : List Nat) : List Nat :=
  let all := match scope with
    | [i] => d.below i
    | _ => (d.below Document.root).filter fun i => (ancestors d d.nodes.size i).any scope.contains
  all.filter (isElement d)

/-- The elements below any of some nodes that a selector means, in document order. -/
def Selector.select (s : Selector) (d : Document) (scope : List Nat) : List Nat :=
  (candidates d scope).filter (s.holds d)

/-- The first such element. -/
def Selector.first? (s : Selector) (d : Document) (scope : List Nat) : Option Nat :=
  (candidates d scope).find? (s.holds d)

end Gleaner.Css
