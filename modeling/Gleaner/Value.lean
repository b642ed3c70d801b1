import Gleaner.Json.Record
import Gleaner.Decimal.Layout
import Gleaner.Decimal.Read
import Gleaner.Text.Blank

/-!
The scalars that extraction yields. What a missed field extracts to is a *zero value*: blank text or
the number 0.
-/
namespace Gleaner

inductive FieldValue where
  | text (s : String)
  | number (x : Float)

namespace FieldValue

instance : Inhabited FieldValue := ⟨.text ""⟩

/-- Blank text. A number never is, not even 0. -/
def isEmpty : FieldValue → Bool
  | .text s => Text.blank s
  | .number _ => false

def isZero : FieldValue → Bool
  | .text s => Text.blank s
  | .number x => x == 0.0

/-- The value as text; zero has no sign there. -/
def asText : FieldValue → String
  | .text s => s
  | .number x => if x == 0.0 then "0" else Decimal.plainText x

/-- The value as a number, read from trimmed text when it is none. -/
def asNumber? : FieldValue → Option Float
  | .text s => Decimal.float? (Text.trim s.toList)
  | .number x => some x

def mapText (f : String → String) : FieldValue → FieldValue
  | .text s => .text (f s)
  | .number x => .number x

def readText (f : String → Float) : FieldValue → FieldValue
  | .text s => .number (f s)
  | .number x => .number x

/-- Numbers that JSON cannot write become `null`. -/
def toJson : FieldValue → Json
  | .text s => .str s
  | .number x => if x.isNaN || x.isInf then .null else .num (.real x)

def ofJson? : Json → Option FieldValue
  | .str s => some (.text s)
  | .num (.int n) => some (.number (Float.ofInt n))
  | .num (.real x) => some (.number x)
  | _ => none

end FieldValue

end Gleaner
