import Gleaner.Value

/-!
Entities: flat records of extracted fields, in order.
-/
namespace Gleaner

/-- A field name to its value, in order of first insertion. -/
abbrev Entity := OrderedMap FieldValue

namespace Entity

/-- The text of a field, empty when it is absent. -/
def text (e : Entity) (name : String) : String :=
  match e.get? name with
  | some v => v.asText
  | none => ""

def number? (e : Entity) (name : String) : Option Float := (e.get? name).bind FieldValue.asNumber?

/-- Takes over every field of `other`. -/
def merge (e other : Entity) : Entity := e.insertAll other.entries

/-- Takes over one field, unless a zero value would replace a filled one. -/
def fill (e : Entity) (name : String) (value : FieldValue) : Entity :=
  match e.get? name with
  | some old => if value.isZero && !old.isZero then e else e.insert name value
  | none => e.insert name value

/-- Takes over the fields of `other` without losing what is filled. -/
def mergeFilled (e other : Entity) : Entity :=
  other.entries.foldl (fun e x => fill e x.1 x.2) e

def toJson (e : Entity) : Json := Json.ofMap FieldValue.toJson e

def ofJson? : Json → Option Entity := Json.mapOf? FieldValue.ofJson?

end Entity

end Gleaner
