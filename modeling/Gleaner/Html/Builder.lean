import Gleaner.Html.Document
import Gleaner.Html.Token

/-!
Building a document: the state, and the moves that all insertion modes share. Open elements and
active formatting elements are held with the last one first.
-/
namespace Gleaner.Html

inductive Mode where
  | initial
  | beforeHtml
  | beforeHead
  | inHead
  | afterHead
  | inBody
  | text
  | inTable
  | inTableText
  | inCaption
  | inColumnGroup
  | inTableBody
  | inRow
  | inCell
  | inSelect
  | inSelectInTable
  | inTemplate
  | afterBody
  | inFrameset
  | afterFrameset
  | afterAfterBody
  | afterAfterFrameset
  deriving DecidableEq, Repr

/-- A formatting element that later content is to stand in again, with its tag; or a marker, which
nothing before it gets past. -/
inductive Active where
  | marker
  | element (node : Nat) (tag : Tag)

def Active.isNode (i : Nat) : Active → Bool
  | .element j _ => i = j
  | .marker => false

def Active.isMarker : Active → Bool
  | .marker => true
  | .element _ _ => false

structure Builder where
  doc : Document
  mode : Mode
  /-- The mode that text and table text return to. -/
  outerMode : Mode
  templateModes : List Mode
  openElements : List Nat
  active : List Active
  headElement : Option Nat
  formElement : Option Nat
  /-- Whether a frameset may still take the place of the body. -/
  framesetOk : Bool
  /-- Whether what does not belong into a table goes in front of it. -/
  fostering : Bool
  tableText : List (List Char)
  quirks : Bool
  textMode : TextMode
  /-- Whether a line end that comes next is dropped. -/
  dropsLine : Bool

namespace Builder

def start : Builder :=
  ⟨.empty, .initial, .initial, [], [], [], none, none, true, false, [], false, .data, false⟩

/-! ### Elements -/

def element? (b : Builder) (i : Nat) : Option Element := b.doc.element? i

/-- The name of a markup element; empty for foreign ones. -/
def nameOf (b : Builder) (i : Nat) : String :=
  match b.element? i with
  | some e => if e.space = .html then e.name else ""
  | none => ""

def isAny (b : Builder) (names : List String) (i : Nat) : Bool := names.contains (b.nameOf i)

def isForeign (b : Builder) (i : Nat) : Bool :=
  match b.element? i with
  | some e => e.space != .html
  | none => false

def current (b : Builder) : Nat := b.openElements.headD Document.root

def currentName (b : Builder) : String := b.nameOf b.current

def headings : List String := ["h1", "h2", "h3", "h4", "h5", "h6"]

def specialNames : List String :=
  ["address", "applet", "area", "article", "aside", "base", "basefont", "bgsound", "blockquote",
    "body", "br", "button", "caption", "center", "col", "colgroup", "dd", "details", "dir", "div",
    "dl", "dt", "embed", "fieldset", "figcaption", "figure", "footer", "form", "frame", "frameset",
    "h1", "h2", "h3", "h4", "h5", "h6", "head", "header", "hgroup", "hr", "html", "iframe", "img",
    "input", "isindex", "li", "link", "listing", "main", "marquee", "menu", "meta", "nav",
    "noembed", "noframes", "noscript", "object", "ol", "p", "param", "plaintext", "pre", "script",
    "search", "section", "select", "source", "style", "summary", "table", "tbody", "td", "template",
    "textarea", "tfoot", "th", "thead", "title", "tr", "track", "ul", "wbr", "xmp"]

def mathTextNames : List String := ["mi", "mo", "mn", "ms", "mtext"]

def svgTextNames : List String := ["foreignObject", "desc", "title"]

def isSpecial (b : Builder) (i : Nat) : Bool :=
  match b.element? i with
  | some e =>
    match e.space with
    | .html => specialNames.contains e.name
    | .math => e.name = "annotation-xml" || mathTextNames.contains e.name
    | .svg => svgTextNames.contains e.name
  | none => false

/-! ### Scopes -/

def scopeNames : List String :=
  ["applet", "caption", "html", "table", "td", "th", "marquee", "object", "template"]

/-- Whether a scope ends at an element, besides those of the given names. -/
def endsScope (b : Builder) (more : List String) (i : Nat) : Bool :=
  match b.element? i with
  | some e =>
    match e.space with
    | .html => scopeNames.contains e.name || more.contains e.name
    | .math => e.name = "annotation-xml" || mathTextNames.contains e.name
    | .svg => svgTextNames.contains e.name
  | none => false

/-- Whether an element that passes comes, from the current one outward, before the scope ends. -/
def inScopeOf (found ends : Nat → Bool) : List Nat → Bool
  | [] => false
  | i :: rest => found i || (!ends i && inScopeOf found ends rest)

def inScope (b : Builder) (names : List String) : Bool :=
  inScopeOf (b.isAny names) (b.endsScope []) b.openElements

def inButtonScope (b : Builder) (names : List String) : Bool :=
  inScopeOf (b.isAny names) (b.endsScope ["button"]) b.openElements

def inListScope (b : Builder) (names : List String) : Bool :=
  inScopeOf (b.isAny names) (b.endsScope ["ol", "ul"]) b.openElements

def inTableScope (b : Builder) (names : List String) : Bool :=
  inScopeOf (b.isAny names) (b.isAny ["html", "table", "template"]) b.openElements

def inSelectScope (b : Builder) (names : List String) : Bool :=
  inScopeOf (b.isAny names) (fun i => !b.isAny ["optgroup", "option"] i) b.openElements

def hasOpen (b : Builder) (name : String) : Bool := b.openElements.any fun i => b.nameOf i = name

/-! ### Open elements -/

def pop (b : Builder) : Builder := { b with openElements := b.openElements.drop 1 }

/-- Closes elements up to and with the first that passes. -/
def popThrough (b : Builder) (found : Nat → Bool) : Builder :=
  { b with openElements := (b.openElements.dropWhile fun i => !found i).drop 1 }

def popUntil (b : Builder) (names : List String) : Builder := b.popThrough (b.isAny names)

/-- Closes elements up to the first of the given names, which stays open. -/
def popBack (b : Builder) (names : List String) : Builder :=
  { b with openElements := b.openElements.dropWhile fun i => !b.isAny names i }

def impliedEnds : List String :=
  ["dd", "dt", "li", "optgroup", "option", "p", "rb", "rp", "rt", "rtc"]

def tableEnds : List String := ["caption", "colgroup", "tbody", "td", "tfoot", "th", "thead", "tr"]

/-- Closes what needs no end tag, other than elements of one name. -/
def closeImplied (b : Builder) (except : String) : Builder :=
  { b with openElements := b.openElements.dropWhile fun i =>
      b.isAny impliedEnds i && b.nameOf i != except }

def closeAllImplied (b : Builder) : Builder :=
  { b with openElements := b.openElements.dropWhile (b.isAny (impliedEnds ++ tableEnds)) }

def closeParagraph (b : Builder) : Builder := (b.closeImplied "p").popUntil ["p"]

def closeOpenParagraph (b : Builder) : Builder :=
  if b.inButtonScope ["p"] then b.closeParagraph else b

/-! ### Insertion -/

inductive Place where
  | last (parent : Nat)
  | before (sibling : Nat)

/-- The inside of a template is apart from the tree. -/
def inside (b : Builder) (i : Nat) : Place :=
  match (b.element? i).bind Element.contents with
  | some c => .last c
  | none => .last i

/-- Where what is fostered out of a table goes: in front of it, or into the element around it. -/
def fosterPlace (b : Builder) : Place :=
  let untilTable := b.openElements.takeWhile fun i => !b.isAny ["table", "template"] i
  match b.openElements.drop untilTable.length with
  | [] => b.inside (b.openElements.getLastD Document.root)
  | i :: rest =>
    if b.nameOf i = "template" then b.inside i
    else if (b.doc.parent? i).isSome then .before i
    else b.inside (rest.headD Document.root)

def placeIn (b : Builder) (target : Nat) : Place :=
  if b.fostering && b.isAny ["table", "tbody", "tfoot", "thead", "tr"] target then b.fosterPlace
  else b.inside target

def insertAt (b : Builder) (place : Place) (i : Nat) : Builder :=
  match place with
  | .last p => { b with doc := b.doc.append p i }
  | .before s => { b with doc := b.doc.insertBefore s i }

/-- Makes an element without placing it. -/
def make (b : Builder) (space : Space) (name : String) (attrs : List Attr) : Builder × Nat :=
  if space = .html && name = "template" then
    let (doc, c) := b.doc.add .fragment
    let (doc, i) := doc.add (.element ⟨space, name, attrs, some c⟩)
    ({ b with doc }, i)
  else
    let (doc, i) := b.doc.add (.element ⟨space, name, attrs, none⟩)
    ({ b with doc }, i)

def plainAttrs (attrs : List (String × String)) : List Attr := attrs.map fun a => ⟨a.1, a.2, false⟩

def makeFor (b : Builder) (t : Tag) : Builder × Nat := b.make .html t.name (plainAttrs t.attrs)

def push (b : Builder) (i : Nat) : Builder := { b with openElements := i :: b.openElements }

/-- Inserts an element that stays open. -/
def insert (b : Builder) (t : Tag) : Builder :=
  let (b, i) := b.makeFor t
  (b.insertAt (b.placeIn b.current) i).push i

def insertNamed (b : Builder) (name : String) : Builder := b.insert ⟨name, [], false⟩

/-- Inserts an element that has no content. -/
def insertEmpty (b : Builder) (t : Tag) : Builder := (b.insert t).pop

def insertText (b : Builder) (cs : List Char) : Builder :=
  let s := String.ofList cs
  match b.placeIn b.current with
  | .last p =>
    match b.doc.content? p with
    | some .document => b
    | _ => { b with doc := b.doc.appendText p s }
  | .before i => { b with doc := b.doc.insertTextBefore i s }

def insertComment (b : Builder) : Builder :=
  let place := b.placeIn b.current
  let (doc, i) := b.doc.add .comment
  { b with doc }.insertAt place i

def insertCommentIn (b : Builder) (parent : Nat) : Builder :=
  let (doc, i) := b.doc.add .comment
  { b with doc := doc.append parent i }

/-- Inserts an element whose content is read in another way. -/
def insertTextElement (b : Builder) (t : Tag) (textMode : TextMode) : Builder :=
  { b.insert t with textMode, outerMode := b.mode, mode := .text }

/-! ### Formatting elements -/

def addMarker (b : Builder) : Builder := { b with active := .marker :: b.active }

def clearToMarker (b : Builder) : Builder :=
  { b with active := (b.active.dropWhile fun a => !a.isMarker).drop 1 }

def sameTag (s t : Tag) : Bool :=
  s.name = t.name && s.attrs.length = t.attrs.length && s.attrs.all t.attrs.contains

/-- Drops, of the elements with a tag, all but the last two. -/
def limitSame (t : Tag) : (seen : Nat) → List Active → List Active
  | _, [] => []
  | _, .marker :: rest => .marker :: rest
  | seen, .element i s :: rest =>
    if sameTag s t then
      if 2 ≤ seen then rest else .element i s :: limitSame t (seen + 1) rest
    else .element i s :: limitSame t seen rest

/-- Makes the current element a formatting element. -/
def activate (b : Builder) (t : Tag) : Builder :=
  { b with active := .element b.current t :: limitSame t 0 b.active }

def deactivate (b : Builder) (i : Nat) : Builder :=
  { b with active := b.active.filter fun a => !a.isNode i }

def removeOpen (b : Builder) (i : Nat) : Builder :=
  { b with openElements := b.openElements.filter (· != i) }

/-- The last formatting element of a name behind the last marker. -/
def lastActive? (b : Builder) (name : String) : Option (Nat × Tag) :=
  (b.active.takeWhile fun a => !a.isMarker).findSome? fun
    | .element i t => if t.name = name then some (i, t) else none
    | .marker => none

/-- Opens the formatting elements again that have been closed. -/
def reconstruct (b : Builder) : Builder :=
  let isClosed := fun (a : Active) => match a with
    | .element i _ => !b.openElements.contains i
    | .marker => false
  let closed := b.active.takeWhile isClosed
  closed.foldr (fun a b =>
    match a with
    | .element i t =>
      let b := b.insert t
      { b with active := b.active.map fun x => if x.isNode i then .element b.current t else x }
    | .marker => b) b

/-- Any other end tag: closes the innermost element of the name, unless a special one stands in it. -/
def closeAny (b : Builder) (name : String) : Builder :=
  let inner := b.openElements.takeWhile fun i => b.nameOf i != name && !b.isSpecial i
  match b.openElements.drop inner.length with
  | i :: _ =>
    if b.nameOf i = name then (b.closeImplied name).popThrough (· = i) else b
  | [] => b

/-- What the inner part of an adoption has reached. -/
structure Adoption where
  builder : Builder
  last : Nat
  /-- The open elements that stay, outermost first. -/
  kept : List Nat
  /-- The element behind which the new one becomes active. -/
  behind : Option Nat
  count : Nat

/-- Takes one element between the formatting element and the block into the adoption. -/
def adoptThrough (block : Nat) (a : Adoption) (node : Nat) : Adoption :=
  let count := a.count + 1
  let b := a.builder
  let entry := b.active.findSome? fun
    | .element i t => if i = node then some t else none
    | .marker => none
  match entry with
  | none => { a with count }
  | some t =>
    if 3 < count then { a with builder := b.deactivate node, count }
    else
      let (b, new) := b.makeFor t
      let swap := fun (x : Active) => if x.isNode node then .element new t else x
      let b := { b with active := b.active.map swap }
      let behind := if a.last = block then some new else a.behind
      let b := { b with doc := b.doc.append new a.last }
      ⟨b, new, new :: a.kept, behind, count⟩

/-- Puts an entry behind another one, or in the place of the one it replaces. -/
def replaceActive (b : Builder) (old : Nat) (behind : Option Nat) (new : Active) : Builder :=
  match behind with
  | none => { b with active := b.active.map fun x => if x.isNode old then new else x }
  | some i =>
    let without := b.active.filter fun x => !x.isNode old
    { b with active := without.flatMap fun x => if x.isNode i then [new, x] else [x] }

/-- Closes a formatting element across a block that stands in it: the block goes out of the element,
and its content into a new one. The flag tells whether there may be more to close. -/
def adoptOnce (b : Builder) (name : String) : Builder × Bool :=
  match b.lastActive? name with
  | none => (b.closeAny name, false)
  | some (formatting, t) =>
    if !b.openElements.contains formatting then (b.deactivate formatting, false)
    else if !inScopeOf (· = formatting) (b.endsScope []) b.openElements then (b, false)
    else
      let lower := b.openElements.takeWhile (· != formatting)
      let outer := b.openElements.drop (lower.length + 1)
      match (lower.reverse.find? b.isSpecial) with
      | none => ((b.popThrough (· = formatting)).deactivate formatting, false)
      | some block =>
        let below := lower.takeWhile (· != block)
        let between := lower.drop (below.length + 1)
        let a := between.foldl (adoptThrough block) ⟨b, block, [], none, 0⟩
        let b := a.builder
        let b := b.insertAt (b.placeIn (outer.headD Document.root)) a.last
        let (b, new) := b.makeFor t
        let b := { b with doc := (b.doc.moveChildren block new).append block new }
        let b := b.replaceActive formatting a.behind (.element new t)
        ({ b with openElements := below ++ new :: block :: a.kept.reverse ++ outer }, true)

def adoptTimes : Nat → Builder → String → Builder
  | 0, b, _ => b
  | n + 1, b, name =>
    let (b, more) := b.adoptOnce name
    if more then adoptTimes n b name else b

/-- The end tag of a formatting element. -/
def adopt (b : Builder) (name : String) : Builder :=
  if b.currentName = name && !b.active.any (Active.isNode b.current) then b.pop
  else adoptTimes 8 b name

/-! ### Modes -/

/-- The mode that the open elements ask for, from the current one outward. -/
def modeFor (b : Builder) : List Nat → Mode
  | [] => .inBody
  | i :: rest =>
    let isLast := rest.isEmpty
    match b.nameOf i with
    | "select" =>
      let around := rest.takeWhile fun j => b.nameOf j != "template"
      if around.any fun j => b.nameOf j = "table" then .inSelectInTable else .inSelect
    | "td" | "th" => if isLast then .inBody else .inCell
    | "tr" => .inRow
    | "tbody" | "thead" | "tfoot" => .inTableBody
    | "caption" => .inCaption
    | "colgroup" => .inColumnGroup
    | "table" => .inTable
    | "template" => b.templateModes.headD .inBody
    | "head" => if isLast then .inBody else .inHead
    | "body" => .inBody
    | "frameset" => .inFrameset
    | "html" => if b.headElement.isNone then .beforeHead else .afterHead
    | _ => modeFor b rest

def resetMode (b : Builder) : Builder := { b with mode := b.modeFor b.openElements }

def withMode (b : Builder) (mode : Mode) : Builder := { b with mode }

/-- Closes the innermost template. -/
def closeTemplate (b : Builder) : Builder :=
  let b := (b.popUntil ["template"]).clearToMarker
  { b with templateModes := b.templateModes.drop 1 }

end Builder

end Gleaner.Html
