import Gleaner.Url.Punycode
import Gleaner.Url.DomainTable
import Gleaner.Url.Label

/-!
Domain names in ASCII. Characters are prepared as international names ask for: case and width forms
are mapped, the name is composed, and each label beyond ASCII is written in Punycode.
-/
namespace Gleaner.Url

def replacedTable : Array (Nat × List Nat) := (Text.codeEntries replacedText).toArray

def ignoredChars : Text.Ranges := Text.Ranges.ofText ignoredText

def refusedChars : Text.Ranges := Text.Ranges.ofText refusedText

/-- ASCII characters that no domain name holds. -/
def isForbiddenInDomain (c : Char) : Bool :=
  c.toNat ≤ 0x20 || c.toNat = 0x7f ||
    ['%', '#', '/', ':', '<', '>', '?', '@', '[', '\\', ']', '^', '\x60', '\x7b', '|',
      '\x7d'].contains c

/-- One character prepared. -/
def prepareChar? (c : Char) : Option (List Char) :=
  if c.toNat < 128 then some [c.toLower]
  else if refusedChars.contains c then none
  else if ignoredChars.contains c then some []
  else match Text.lookupKey replacedTable c.toNat with
    | some image => some (image.map Char.ofNat)
    | none => some [c]

def prepare? (cs : List Char) : Option (List Char) :=
  (cs.mapM prepareChar?).map fun parts => Text.composed parts.flatten

/-- Characters that stand on the one before them, so that no label starts with one. -/
def isCombining (c : Char) : Bool := isMark c || (Text.categoryRanges "Mc").contains c

/-- Whether a label beyond ASCII is in its prepared form, starts anew, and has joiners only where they
may stand. -/
def isLabel (cs : List Char) : Bool :=
  prepare? cs == some cs && !cs.head?.any isCombining && joinersStand [] cs

def isAscii (cs : List Char) : Bool := cs.all fun c => c.toNat < 128

/-- What a label stands for. One in Punycode must stand for a label that needs it. -/
def label? (cs : List Char) : Option (List Char) :=
  match cs with
  | 'x' :: 'n' :: '-' :: '-' :: rest =>
    if isAscii cs then (Punycode.decode? rest).filter fun l => !isAscii l && isLabel l else none
  | cs => if isAscii cs || isLabel cs then some cs else none

/-- A label in ASCII. -/
def asciiLabel (cs : List Char) : List Char :=
  if isAscii cs then cs else 'x' :: 'n' :: '-' :: '-' :: Punycode.encode cs

def joinLabels : List (List Char) → List Char
  | [] => []
  | [l] => l
  | l :: ls => l ++ '.' :: joinLabels ls

/-- The ASCII form of a domain name. -/
def asciiDomain? (cs : List Char) : Option (List Char) := do
  let prepared ← prepare? cs
  let labels ← (Text.splitAtChar '.' prepared).mapM label?
  let name := joinLabels (labels.map asciiLabel)
  if !directionsAgree labels || name.any isForbiddenInDomain then none else some name

end Gleaner.Url
