import Gleaner.Page
import Gleaner.Query
import Gleaner.Site.Access
import Gleaner.Site.Request

/-!
Site definitions, the data that describes a site: its address, how it is searched, which requests
tell about the user, and the fields on its pages.
-/
namespace Gleaner

structure CategoryOption where
  value : Json
  name : String

/-- A search category and the options that a site offers for it. -/
structure Category where
  name : String
  key : String
  options : List CategoryOption

structure SearchSettings where
  keywordsParam : Option String
  request : RequestTemplate
  format : PageFormat
  /-- Where result rows are: a selector, or a path. -/
  rows : Option String
  categories : List Category

/-- One request of those that tell about the user. -/
structure ProfileStep where
  request : RequestTemplate
  /-- Fields of earlier steps, with the parameters that they fill. -/
  assertion : OrderedMap String
  /-- The fields that the step extracts; all that are missing when there are none. -/
  fields : List String
  format : PageFormat

/-- The definition of a site. -/
structure SiteDefinition where
  name : String
  aka : List String
  description : Option String
  url : Option String
  activateUrl : Option String
  host : Option String
  timezoneOffset : Option String
  tags : List String
  collaborator : Option String
  authPolicy : AuthPolicy
  search : SearchSettings
  profile : Option (List ProfileStep)
  groups : OrderedMap FieldGroup
  /-- The path of a detail page, with a place for an identifier. -/
  detailPath : Option String

namespace CategoryOption

def fieldNames : List String := ["value", "name"]

def toFields (o : CategoryOption) : List (String × Option Json) :=
  [("value", some o.value), ("name", some (.str o.name))]

def toJson (o : CategoryOption) : Json := .ofFields o.toFields

def ofFields? (field : String → Option Json) : Option CategoryOption := do
  let value ← Json.required Json.anyValue? (field "value")
  let name ← Json.required Json.str? (field "name")
  some ⟨value, name⟩

def ofJson? : Json → Option CategoryOption := Json.record? fieldNames ofFields?

end CategoryOption

namespace Category

def fieldNames : List String := ["name", "key", "options"]

def toFields (c : Category) : List (String × Option Json) :=
  [("name", some (.str c.name)), ("key", some (.str c.key)),
    ("options", some (.arr (c.options.map CategoryOption.toJson)))]

def toJson (c : Category) : Json := .ofFields c.toFields

def ofFields? (field : String → Option Json) : Option Category := do
  let name ← Json.required Json.str? (field "name")
  let key ← Json.required Json.str? (field "key")
  let options ← Json.withDefault (Json.arrayOf? CategoryOption.ofJson?) [] (field "options")
  some ⟨name, key, options⟩

def ofJson? : Json → Option Category := Json.record? fieldNames ofFields?

end Category

namespace SearchSettings

def empty : SearchSettings := ⟨none, .empty, .document, none, []⟩

def fieldNames : List String := ["keywordsParam", "requestConfig", "type", "rows", "categories"]

def toFields (s : SearchSettings) : List (String × Option Json) :=
  [("keywordsParam", s.keywordsParam.map .str), ("requestConfig", some s.request.toJson),
    ("type", some (.str s.format.name)), ("rows", s.rows.map .str),
    ("categories", Json.omitIf s.categories.isEmpty (.arr (s.categories.map Category.toJson)))]

def toJson (s : SearchSettings) : Json := .ofFields s.toFields

def ofFields? (field : String → Option Json) : Option SearchSettings := do
  let keywordsParam ← Json.optional Json.str? (field "keywordsParam")
  let request ← Json.withDefault RequestTemplate.ofJson? .empty (field "requestConfig")
  let format ← Json.withDefault PageFormat.ofJson? .document (field "type")
  let rows ← Json.optional Json.str? (field "rows")
  let categories ← Json.withDefault (Json.arrayOf? Category.ofJson?) [] (field "categories")
  some ⟨keywordsParam, request, format, rows, categories⟩

def ofJson? : Json → Option SearchSettings := Json.record? fieldNames ofFields?

end SearchSettings

namespace ProfileStep

def empty : ProfileStep := ⟨.empty, OrderedMap.empty, [], .document⟩

def fieldNames : List String := ["requestConfig", "assertion", "fields", "type"]

def toFields (s : ProfileStep) : List (String × Option Json) :=
  [("requestConfig", some s.request.toJson),
    ("assertion", Json.omitIf s.assertion.isEmpty (Json.ofMap .str s.assertion)),
    ("fields", some (Json.ofStrings s.fields)), ("type", some (.str s.format.name))]

def toJson (s : ProfileStep) : Json := .ofFields s.toFields

def ofFields? (field : String → Option Json) : Option ProfileStep := do
  let request ← Json.withDefault RequestTemplate.ofJson? .empty (field "requestConfig")
  let assertion ← Json.withDefault (Json.mapOf? Json.str?) OrderedMap.empty (field "assertion")
  let fields ← Json.withDefault (Json.arrayOf? Json.str?) [] (field "fields")
  let format ← Json.withDefault PageFormat.ofJson? .document (field "type")
  some ⟨request, assertion, fields, format⟩

def ofJson? : Json → Option ProfileStep := Json.record? fieldNames ofFields?

def sectionToFields (steps : List ProfileStep) : List (String × Option Json) :=
  [("process", some (.arr (steps.map toJson)))]

/-- The steps as a section of a definition. -/
def sectionToJson (steps : List ProfileStep) : Json := .ofFields (sectionToFields steps)

def sectionOfFields? (field : String → Option Json) : Option (List ProfileStep) :=
  Json.withDefault (Json.arrayOf? ofJson?) [] (field "process")

def section? : Json → Option (List ProfileStep) := Json.record? ["process"] sectionOfFields?

end ProfileStep

namespace SiteDefinition

def empty : SiteDefinition :=
  ⟨"", [], none, none, none, none, none, [], none, .everyone, .empty, none, OrderedMap.empty, none⟩

def fieldNames : List String :=
  ["name", "aka", "description", "url", "activateUrl", "host", "timezoneOffset", "tags",
    "collaborator", "authPolicy", "search", "userInfo", "selector", "detailPagePath"]

def toFields (d : SiteDefinition) : List (String × Option Json) :=
  [("name", some (.str d.name)), ("aka", Json.omitIf d.aka.isEmpty (Json.ofStrings d.aka)),
    ("description", d.description.map .str), ("url", d.url.map .str),
    ("activateUrl", d.activateUrl.map .str), ("host", d.host.map .str),
    ("timezoneOffset", d.timezoneOffset.map .str),
    ("tags", Json.omitIf d.tags.isEmpty (Json.ofStrings d.tags)),
    ("collaborator", d.collaborator.map .str), ("authPolicy", some (.str d.authPolicy.name)),
    ("search", some d.search.toJson), ("userInfo", d.profile.map ProfileStep.sectionToJson),
    ("selector", some (Json.ofMap FieldGroup.toJson d.groups)),
    ("detailPagePath", d.detailPath.map .str)]

/-- A definition as JSON. What is absent is left out. -/
def toJson (d : SiteDefinition) : Json := .ofFields d.toFields

def ofFields? (field : String → Option Json) : Option SiteDefinition := do
  let name ← Json.withDefault Json.str? "" (field "name")
  let aka ← Json.withDefault (Json.arrayOf? Json.str?) [] (field "aka")
  let description ← Json.optional Json.str? (field "description")
  let url ← Json.optional Json.str? (field "url")
  let activateUrl ← Json.optional Json.str? (field "activateUrl")
  let host ← Json.optional Json.str? (field "host")
  let timezoneOffset ← Json.optional Json.str? (field "timezoneOffset")
  let tags ← Json.withDefault (Json.arrayOf? Json.str?) [] (field "tags")
  let collaborator ← Json.optional Json.str? (field "collaborator")
  let authPolicy ← Json.withDefault AuthPolicy.ofJson? .everyone (field "authPolicy")
  let search ← Json.withDefault SearchSettings.ofJson? .empty (field "search")
  let profile ← Json.optional ProfileStep.section? (field "userInfo")
  let groups ← Json.withDefault (Json.mapOf? FieldGroup.ofJson?) OrderedMap.empty (field "selector")
  let detailPath ← Json.optional Json.str? (field "detailPagePath")
  some ⟨name, aka, description, url, activateUrl, host, timezoneOffset, tags, collaborator,
    authPolicy, search, profile, groups, detailPath⟩

def ofJson? : Json → Option SiteDefinition := Json.record? fieldNames ofFields?

/-- The definitions in a JSON document: one, or an array of them. -/
def allOfJson? (j : Json) : Option (List SiteDefinition) :=
  match j with
  | .arr items => items.mapM ofJson?
  | j => (ofJson? j).map fun d => [d]

end SiteDefinition

end Gleaner
