import Gleaner.Json.Record

/-!
Field queries, the data that says how one field is extracted: where to look, what to read there, and
which filters to send the value through.
-/
namespace Gleaner

/-- One selector, or several to be tried in order. -/
inductive Selectors where
  | one (selector : String)
  | many (selectors : List String)
  deriving DecidableEq, Repr

namespace Selectors

def toList : Selectors → List String
  | .one s => [s]
  | .many ss => ss

def toJson : Selectors → Json
  | .one s => .str s
  | .many ss => Json.ofStrings ss

def ofJson? : Json → Option Selectors
  | .str s => some (.one s)
  | .arr items => (items.mapM Json.str?).map .many
  | _ => none

end Selectors

/-- A filter to apply: a bare name, or a name with arguments. -/
inductive FilterStep where
  | named (name : String)
  | call (name : String) (args : List String)
  deriving DecidableEq, Repr

namespace FilterStep

def name : FilterStep → String
  | .named n => n
  | .call n _ => n

def args : FilterStep → List String
  | .named _ => []
  | .call _ as => as

def callFieldNames : List String := ["name", "args"]

def callToFields (call : String × List String) : List (String × Option Json) :=
  [("name", some (.str call.1)), ("args", some (Json.ofStrings call.2))]

def callOfFields? (field : String → Option Json) : Option (String × List String) := do
  let name ← Json.required Json.str? (field "name")
  let args ← Json.withDefault (Json.arrayOf? Json.str?) [] (field "args")
  some (name, args)

def toJson : FilterStep → Json
  | .named n => .str n
  | .call n as => .ofFields (callToFields (n, as))

/-- A call is written as an object only, unlike other records. -/
def ofJson? : Json → Option FilterStep
  | .str s => some (.named s)
  | .obj members =>
    (Json.record? callFieldNames callOfFields? (.obj members)).map fun c => .call c.1 c.2
  | _ => none

end FilterStep

/-- Where and how one value is extracted. -/
structure FieldQuery where
  selectors : Selectors
  /-- An attribute to read instead of the text. -/
  attr : Option String
  /-- A key of the element's data to read instead of the text; it wins over `attr`. -/
  dataKey : Option String
  filters : List FilterStep
  deriving DecidableEq, Repr

namespace FieldQuery

def ofSelectors (s : Selectors) : FieldQuery := ⟨s, none, none, []⟩

def withAttr (q : FieldQuery) (name : String) : FieldQuery := { q with attr := some name }

def withData (q : FieldQuery) (key : String) : FieldQuery := { q with dataKey := some key }

def withFilter (q : FieldQuery) (f : FilterStep) : FieldQuery :=
  { q with filters := q.filters ++ [f] }

def fieldNames : List String := ["selector", "attr", "data", "filters"]

def toFields (q : FieldQuery) : List (String × Option Json) :=
  [("selector", some q.selectors.toJson), ("attr", q.attr.map .str), ("data", q.dataKey.map .str),
    ("filters", Json.omitIf q.filters.isEmpty (.arr (q.filters.map FilterStep.toJson)))]

def toJson (q : FieldQuery) : Json := .ofFields q.toFields

def ofFields? (field : String → Option Json) : Option FieldQuery := do
  let selectors ← Json.withDefault Selectors.ofJson? (.many []) (field "selector")
  let attr ← Json.optional Json.str? (field "attr")
  let dataKey ← Json.optional Json.str? (field "data")
  let filters ← Json.withDefault (Json.arrayOf? FilterStep.ofJson?) [] (field "filters")
  some ⟨selectors, attr, dataKey, filters⟩

def ofJson? : Json → Option FieldQuery := Json.record? fieldNames ofFields?

end FieldQuery

/-- Field names with their queries, in the order in which the fields appear in results. -/
abbrev FieldGroup := OrderedMap FieldQuery

namespace FieldGroup

def toJson (g : FieldGroup) : Json := Json.ofMap FieldQuery.toJson g

def ofJson? : Json → Option FieldGroup := Json.mapOf? FieldQuery.ofJson?

end FieldGroup

end Gleaner
