import Gleaner.Json.Basic

/-!
Reading records out of JSON. A record is written as an object, or as an array of its fields in their
declared order, of which the last ones may be missing. Members that the record does not know are
passed over; a known one that stands twice spoils it.
-/
namespace Gleaner.Json

/-- The members of a record that has the given fields. -/
def fields? (names : List String) : Json → Option (List (String × Json))
  | .obj members =>
    let known := members.filter fun m => names.contains m.1
    if (Keyed.keys known).Nodup then some known else none
  | .arr items => if items.length ≤ names.length then some (names.zip items) else none
  | _ => none

/-- Reads a record out of the values of its fields. -/
def record? {α : Type} (names : List String) (read? : (String → Option Json) → Option α) (j : Json) :
    Option α :=
  (fields? names j).bind fun members => read? (members.lookup ·)

section
variable {α : Type} (read? : Json → Option α)

/-- A field that must be there. -/
def required (field : Option Json) : Option α := field.bind read?

/-- A field that may be missing or `null`. -/
def optional : Option Json → Option (Option α)
  | none | some .null => some none
  | some j => (read? j).map some

/-- A field that has a default. -/
def withDefault (value : α) : Option Json → Option α
  | none => some value
  | some j => read? j

end

def str? : Json → Option String
  | .str s => some s
  | _ => none

/-- Any value. Of members with one key the last counts. -/
def anyValue? (j : Json) : Option Json := some j.dedupe

def arrayOf? {α : Type} (read? : Json → Option α) : Json → Option (List α)
  | .arr items => items.mapM read?
  | _ => none

/-- An object read as a map; of a repeated key the last value counts, at the place of the first. -/
def mapOf? {α : Type} (read? : Json → Option α) : Json → Option (OrderedMap α)
  | .obj members =>
    (members.mapM fun m => (read? m.2).map fun v => (m.1, v)).map OrderedMap.ofList
  | _ => none

/-- One of a few names. A name may also be the only key of an object, over `null`. -/
def choice? {α : Type} (choices : List (String × α)) : Json → Option α
  | .str s => choices.lookup s
  | .obj [(s, .null)] => choices.lookup s
  | _ => none

def ofMap {α : Type} (write : α → Json) (m : OrderedMap α) : Json :=
  .obj (m.entries.map fun x => (x.1, write x.2))

def ofStrings (xs : List String) : Json := .arr (xs.map .str)

/-- A record as an object, without the fields that have no value. -/
def ofFields (fields : List (String × Option Json)) : Json :=
  .obj (fields.filterMap fun f => f.2.map fun j => (f.1, j))

/-- The value of a field that is left out when the condition holds. -/
def omitIf (absent : Bool) (value : Json) : Option Json := if absent then none else some value

end Gleaner.Json
