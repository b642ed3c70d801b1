import Gleaner.Entity
import Gleaner.Extraction
import Gleaner.Json.Parser

/-!
Pages made into entities: one for each row of a page, or one for a page as a whole.
-/
namespace Gleaner

/-- How a page is written. -/
inductive PageFormat where
  | document
  | json
  deriving DecidableEq, Repr

namespace PageFormat

def name : PageFormat → String
  | .document => "document"
  | .json => "json"

def ofJson? : Json → Option PageFormat :=
  Json.choice? [("document", .document), ("json", .json)]

end PageFormat

namespace Page

/-- The fields that hold links. -/
def linkFields : List String := ["url", "link"]

/-- The value of one field. Links are made absolute. -/
def field (source : Source) (filters : FilterRegistry) (links : String → String)
    (name : String) (q : FieldQuery) : FieldValue :=
  let value := extract source q filters
  if linkFields.contains name then .text (links value.asText) else value

/-- All fields of a group, or those that are asked for. -/
def entity (source : Source) (group : FieldGroup) (only : Option (List String))
    (filters : FilterRegistry) (links : String → String) : Entity :=
  let wanted := group.entries.filter fun f => only.all fun names => names.contains f.1
  OrderedMap.ofList (wanted.map fun f => (f.1, field source filters links f.1 f.2))

/-- The rows of a page: the elements of a selector, or the items of the array at a path. -/
def rows (body : String) (format : PageFormat) (rows : Option String) : List Source :=
  match format with
  | .document =>
    match rows.bind Css.Selector.parse? with
    | some selector =>
      let d := Html.Document.parse body
      (selector.select d [Html.Document.root]).map fun i => .html d [i]
    | none => []
  | .json =>
    match (Json.parse? body).bind fun j => j.at? (rows.getD "") with
    | some (.arr items) => items.map .json
    | _ => []

/-- One entity for each row. -/
def entities (body : String) (format : PageFormat) (rows : Option String) (group : FieldGroup)
    (filters : FilterRegistry) (links : String → String) : List Entity :=
  (Page.rows body format rows).map fun row => entity row group none filters links

/-- The elements of a document that a selector means. -/
def scopeOf (d : Html.Document) (selector : String) : Source :=
  let found := (Css.Selector.parse? selector).map fun s => s.select d [Html.Document.root]
  .html d (found.getD [])

/-- A page as a whole. What is no JSON reads as `null`. -/
def whole (body : String) (format : PageFormat) : Source :=
  match format with
  | .document => scopeOf (Html.Document.parse body) "html"
  | .json => .json ((Json.parse? body).getD .null)

/-- One entity for the whole page. -/
def summary (body : String) (format : PageFormat) (group : FieldGroup) (only : Option (List String))
    (filters : FilterRegistry) (links : String → String) : Entity :=
  entity (whole body format) group only filters links

end Page

end Gleaner
