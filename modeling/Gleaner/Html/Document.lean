/-!
Documents: trees of elements, texts and comments. Nodes are numbered in the order in which they are
made, and each knows its parent and its children; node 0 is the document itself.
-/
namespace Gleaner.Html

inductive Space where
  | html
  | svg
  | math
  deriving DecidableEq, Repr

/-- A qualified attribute has a namespace of its own. -/
structure Attr where
  name : String
  value : String
  qualified : Bool
  deriving DecidableEq, Repr

structure Element where
  space : Space
  name : String
  attrs : List Attr
  /-- The node that holds what stands in a template; it is not part of the tree. -/
  contents : Option Nat

inductive Content where
  | document
  | fragment
  | doctype
  | comment
  | text (s : String)
  | element (e : Element)

structure Node where
  content : Content
  parent : Option Nat
  children : Array Nat

structure Document where
  nodes : Array Node

namespace Document

def empty : Document := ⟨#[⟨.document, none, #[]⟩]⟩

def root : Nat := 0

def content? (d : Document) (i : Nat) : Option Content := d.nodes[i]?.map Node.content

def element? (d : Document) (i : Nat) : Option Element :=
  match d.content? i with
  | some (.element e) => some e
  | _ => none

def text? (d : Document) (i : Nat) : Option String :=
  match d.content? i with
  | some (.text s) => some s
  | _ => none

def parent? (d : Document) (i : Nat) : Option Nat := d.nodes[i]?.bind Node.parent

def children (d : Document) (i : Nat) : Array Nat :=
  match d.nodes[i]? with
  | some n => n.children
  | none => #[]

def modify (d : Document) (i : Nat) (f : Node → Node) : Document := ⟨d.nodes.modify i f⟩

/-- Makes a node that has no parent yet. -/
def add (d : Document) (c : Content) : Document × Nat :=
  (⟨d.nodes.push ⟨c, none, #[]⟩⟩, d.nodes.size)

/-- Takes a node from its parent. -/
def detach (d : Document) (i : Nat) : Document :=
  match d.parent? i with
  | none => d
  | some p =>
    (d.modify p fun n => { n with children := n.children.filter (· != i) }).modify i
      fun n => { n with parent := none }

def append (d : Document) (parent i : Nat) : Document :=
  ((d.detach i).modify parent fun n => { n with children := n.children.push i }).modify i
    fun n => { n with parent := some parent }

/-- Puts a node in front of a sibling. -/
def insertBefore (d : Document) (sibling i : Nat) : Document :=
  match d.parent? sibling with
  | none => d
  | some p =>
    let place := fun (cs : Array Nat) =>
      cs.flatMap fun c => if c = sibling then #[i, c] else #[c]
    ((d.detach i).modify p fun n => { n with children := place n.children }).modify i
      fun n => { n with parent := some p }

/-- The child in front of a node. -/
def previousSibling? (d : Document) (i : Nat) : Option Nat :=
  (d.parent? i).bind fun p =>
    let siblings := d.children p
    match siblings.idxOf? i with
    | some (k + 1) => siblings[k]?
    | _ => none

def addText (d : Document) (i : Nat) (s : String) : Document :=
  d.modify i fun n =>
    match n.content with
    | .text t => { n with content := .text (t ++ s) }
    | _ => n

/-- Puts text at the end of a node, as part of a text that ends there. -/
def appendText (d : Document) (parent : Nat) (s : String) : Document :=
  match (d.children parent).back? with
  | some last =>
    if (d.text? last).isSome then d.addText last s
    else let (d, i) := d.add (.text s); d.append parent i
  | none => let (d, i) := d.add (.text s); d.append parent i

/-- Puts text in front of a node, as part of a text that ends there. -/
def insertTextBefore (d : Document) (sibling : Nat) (s : String) : Document :=
  match d.previousSibling? sibling with
  | some last =>
    if (d.text? last).isSome then d.addText last s
    else let (d, i) := d.add (.text s); d.insertBefore sibling i
  | none => let (d, i) := d.add (.text s); d.insertBefore sibling i

/-- Moves all children of one node to the end of another. -/
def moveChildren (d : Document) (source target : Nat) : Document :=
  (d.children source).foldl (fun d i => d.append target i) d

/-- Gives an element those attributes that it lacks. -/
def addAttrs (d : Document) (i : Nat) (attrs : List (String × String)) : Document :=
  d.modify i fun n =>
    match n.content with
    | .element e =>
      let new := attrs.filter fun a => !e.attrs.any fun b => b.name = a.1
      let attrs := e.attrs ++ new.map fun a => ⟨a.1, a.2, false⟩
      { n with content := .element { e with attrs } }
    | _ => n

/-- A node and all below it, in document order, down to a depth. -/
def subtree (d : Document) : (depth : Nat) → Nat → List Nat
  | 0, _ => []
  | depth + 1, i => i :: (d.children i).toList.flatMap (d.subtree depth)

/-- All nodes below a node, in document order. No path is longer than there are nodes. -/
def below (d : Document) (i : Nat) : List Nat := (d.subtree (d.nodes.size + 1) i).drop 1

/-- The text of a node: all texts in it and below it. -/
def textOf (d : Document) (i : Nat) : String :=
  ((d.text? i).getD "") ++ String.join ((d.below i).filterMap d.text?)

def attr? (e : Element) (name : String) : Option String :=
  (e.attrs.find? fun a => a.name = name).map Attr.value

end Document

end Gleaner.Html
