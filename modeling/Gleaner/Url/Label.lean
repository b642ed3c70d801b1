import Gleaner.Text.Category
import Gleaner.Text.Compose
import Gleaner.Url.LabelTable

/-!
What the labels of international domain names keep to: an invisible joiner stands only where it
changes how the letters look, and no label mixes directions of writing.
-/
namespace Gleaner.Url

/-- Marks that stand on the character before them. -/
def markRanges : Text.Ranges :=
  (Text.Ranges.normal (["Mn", "Me"].flatMap fun s => (Text.categoryRanges s).toList)).toArray

def isMark (c : Char) : Bool := markRanges.contains c

/-! ### Joiners -/

def joinsBoth : Text.Ranges := Text.Ranges.ofText joinsBothText

def joinsBefore : Text.Ranges := Text.Ranges.ofText joinsBeforeText

def joinsAfter : Text.Ranges := Text.Ranges.ofText joinsAfterText

/-- Marks do not come between letters that are joined. -/
def isPassedOver (c : Char) : Bool := isMark c || c.toNat = 0x1e94b

/-- The combining class of signs that take the vowel from a letter. -/
def viramaClass : Nat := 9

/-- Whether a joiner may stand between the characters before it, the last one first, and those after
it. The one that joins follows a sign without vowel; the one that parts may also stand between
letters that would be joined. -/
def mayStand (joiner : Char) (before after : List Char) : Bool :=
  before.head?.any (fun c => Text.combiningClass c = viramaClass) ||
    (joiner = '\u200c' &&
      ((before.dropWhile isPassedOver).head?.any fun c =>
        joinsAfter.contains c || joinsBoth.contains c) &&
      ((after.dropWhile isPassedOver).head?.any fun c =>
        joinsBefore.contains c || joinsBoth.contains c))

/-- Whether all joiners of a text may stand where they do, after the characters given. -/
def joinersStand : (before : List Char) → List Char → Bool
  | _, [] => true
  | before, c :: cs =>
    (if c = '\u200c' || c = '\u200d' then mayStand c before cs else true) &&
      joinersStand (c :: before) cs

/-! ### Directions -/

inductive Direction where
  | left
  | right
  | arabicNumber
  | europeanNumber
  | mark
  | neutral
  deriving DecidableEq, Repr

def rightRanges : Text.Ranges := Text.Ranges.ofText rightText

def arabicNumberRanges : Text.Ranges := Text.Ranges.ofText arabicNumberText

def europeanNumberRanges : Text.Ranges := Text.Ranges.ofText europeanNumberText

def neutralRanges : Text.Ranges := Text.Ranges.ofText neutralText

/-- Vowel signs that have the direction of letters. -/
def directedMarks : List Nat := [0xcbf, 0xcc6, 0x11a07, 0x11a08, 0x11c3f]

namespace Direction

def ofChar (c : Char) : Direction :=
  if rightRanges.contains c then right
  else if arabicNumberRanges.contains c then arabicNumber
  else if europeanNumberRanges.contains c then europeanNumber
  else if neutralRanges.contains c then neutral
  else if isMark c && !directedMarks.contains c.toNat then mark
  else left

/-- Whether characters of these directions make a label of one direction. -/
def agree : List Direction → Bool
  | [] => true
  | left :: ds =>
    (ds.all fun d => d ∈ [left, europeanNumber, neutral, mark]) &&
      ((left :: ds).reverse.dropWhile (· = mark)).head?.any (· ∈ [left, europeanNumber])
  | right :: ds =>
    !ds.contains left && !(ds.contains arabicNumber && ds.contains europeanNumber) &&
      ((right :: ds).reverse.dropWhile (· = mark)).head?.any fun d =>
        d ∈ [right, arabicNumber, europeanNumber]
  | _ => false

end Direction

/-- Whether the labels of a name keep to one direction each, which counts once any has characters
that go from right to left. -/
def directionsAgree (labels : List (List Char)) : Bool :=
  let directions := labels.map fun l => l.map Direction.ofChar
  !(directions.any fun ds => ds.any fun d => d ∈ [.right, .arabicNumber]) ||
    directions.all Direction.agree

end Gleaner.Url
