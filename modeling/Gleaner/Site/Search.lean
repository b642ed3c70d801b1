import Gleaner.Site.Config

/-!
Searches: what a caller looks for, and the request that asks a site for it.
-/
namespace Gleaner

/-- Keywords, and constraints as pairs of a category's key and a value. -/
structure SearchFilter where
  keywords : Option String
  categories : List (String × String)
  deriving DecidableEq, Repr

namespace SearchFilter

def empty : SearchFilter := ⟨none, []⟩

def ofKeywords (keywords : String) : SearchFilter := ⟨some keywords, []⟩

def withCategory (f : SearchFilter) (key value : String) : SearchFilter :=
  { f with categories := f.categories ++ [(key, value)] }

def toJson (f : SearchFilter) : Json :=
  .obj [("keywords", SiteConfig.optionJson f.keywords),
    ("categories", .arr (f.categories.map fun c => .obj [("key", .str c.1), ("value", .str c.2)]))]

def constraint? : Json → Option (String × String) :=
  Json.record? ["key", "value"] fun field => do
    let key ← Json.required Json.str? (field "key")
    let value ← Json.required Json.str? (field "value")
    some (key, value)

def ofJson? : Json → Option SearchFilter :=
  Json.record? ["keywords", "categories"] fun field => do
    let keywords ← Json.optional Json.str? (field "keywords")
    let categories ← Json.withDefault (Json.arrayOf? constraint?) [] (field "categories")
    some ⟨keywords, categories⟩

end SearchFilter

namespace SearchSettings

/-- The option that a site has for a constraint. Several categories may share a key. -/
def option? (s : SearchSettings) (constraint : String × String) : Option CategoryOption :=
  ((s.categories.filter fun c => c.key = constraint.1).flatMap (·.options)).find? fun o =>
    Request.paramText o.value = constraint.2

/-- Asks for keywords, when there are any and the site takes them. -/
def addKeywords (s : SearchSettings) (r : Request) (keywords : Option String) : Request :=
  match unlessBlank keywords, s.keywordsParam with
  | some keywords, some param => r.withParam param (Text.trimmed keywords)
  | _, _ => r

/-- Asks for a constraint. One that the site does not offer is left out. -/
def addConstraint (s : SearchSettings) (r : Request) (constraint : String × String) : Request :=
  match s.option? constraint with
  | some o => r.withParam constraint.1 (Request.paramText o.value)
  | none => r

/-- The request for a search. -/
def build (s : SearchSettings) (f : SearchFilter) : Request :=
  f.categories.foldl s.addConstraint (s.addKeywords (Request.ofTemplate s.request) f.keywords)

end SearchSettings

end Gleaner
