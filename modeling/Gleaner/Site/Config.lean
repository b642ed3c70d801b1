import Gleaner.Css.Parser
import Gleaner.Filter.Basic
import Gleaner.Json.Merge
import Gleaner.Json.Parser
import Gleaner.Site.Definition
import Gleaner.Site.Error

/-!
The effective configuration of a site: its definition with overrides merged over it, an address that
holds, and a host.
-/
namespace Gleaner

structure SiteConfig where
  name : String
  aka : List String
  description : Option String
  url : String
  activateUrl : Option String
  host : String
  timezoneOffset : Option String
  tags : List String
  collaborator : Option String
  authPolicy : AuthPolicy
  search : SearchSettings
  profile : Option (List ProfileStep)
  groups : OrderedMap FieldGroup
  detailPath : Option String

/-- The definitions in a text: one, or an array of them. -/
def SiteDefinition.parseAll (text : String) : Except ConfigError (List SiteDefinition) :=
  match (Json.parse? text).bind allOfJson? with
  | some ds => .ok ds
  | none => .error (.parse "no site definitions")

/-- Merges overrides over a definition. -/
def SiteDefinition.override (d : SiteDefinition) (overrides : Json) :
    Except ConfigError SiteDefinition :=
  match SiteDefinition.ofJson? (d.toJson.merge overrides) with
  | some d => .ok d
  | none => .error (.schema "a field does not have its form")

/-- The host of an address, with its port if that is not the usual one. -/
def hostOfUrl (url : String) : Except ConfigError String :=
  match Url.parse url with
  | .error e => .error (.invalidUrl url e.message)
  | .ok u =>
    match u.authority with
    | some ⟨_, _, some host, port⟩ =>
      .ok (String.ofList (host.text ++ match port with
        | some n => ':' :: Nat.toDigits 10 n
        | none => []))
    | _ => .error (.invalidUrl url "url has no host")

/-- A text unless it is blank. -/
def unlessBlank (s : Option String) : Option String := s.filter fun t => !Text.blank t

namespace SiteConfig

/-- The configuration of a definition that is already merged. -/
def ofDefinition (d : SiteDefinition) : Except ConfigError SiteConfig :=
  match unlessBlank d.url with
  | none => .error (.missingUrl d.name)
  | some url =>
    (hostOfUrl url).map fun host =>
      { name := d.name, aka := d.aka, description := d.description, url,
        activateUrl := unlessBlank d.activateUrl, host := (unlessBlank d.host).getD host,
        timezoneOffset := d.timezoneOffset, tags := d.tags, collaborator := d.collaborator,
        authPolicy := d.authPolicy, search := d.search, profile := d.profile, groups := d.groups,
        detailPath := d.detailPath }

/-- The effective configuration of a definition under overrides. -/
def resolve (d : SiteDefinition) (overrides : Json) : Except ConfigError SiteConfig :=
  (d.override overrides).bind ofDefinition

def toDefinition (c : SiteConfig) : SiteDefinition :=
  { name := c.name, aka := c.aka, description := c.description, url := some c.url,
    activateUrl := c.activateUrl, host := some c.host, timezoneOffset := c.timezoneOffset,
    tags := c.tags, collaborator := c.collaborator, authPolicy := c.authPolicy, search := c.search,
    profile := c.profile, groups := c.groups, detailPath := c.detailPath }

/-- The address that requests and links start from. -/
def activeUrl (c : SiteConfig) : String := c.activateUrl.getD c.url

def group? (c : SiteConfig) (name : String) : Option FieldGroup := c.groups.get? name

/-- Every use of a filter, with the group and the field it stands in. -/
def filterRefs (c : SiteConfig) : List (String × String × String) :=
  c.groups.entries.flatMap fun g =>
    g.2.entries.flatMap fun f => f.2.filters.map fun step => (g.1, f.1, step.name)

def optionJson (s : Option String) : Json :=
  match s with
  | some s => .str s
  | none => .null

/-- A configuration as JSON. What is absent is `null`. -/
def toJson (c : SiteConfig) : Json :=
  .obj [("name", .str c.name), ("aka", Json.ofStrings c.aka),
    ("description", optionJson c.description), ("url", .str c.url),
    ("activateUrl", optionJson c.activateUrl), ("host", .str c.host),
    ("timezoneOffset", optionJson c.timezoneOffset), ("tags", Json.ofStrings c.tags),
    ("collaborator", optionJson c.collaborator), ("authPolicy", .str c.authPolicy.name),
    ("search", c.search.toJson),
    ("userInfo", match c.profile with
      | some steps => ProfileStep.sectionToJson steps
      | none => .null),
    ("selector", Json.ofMap FieldGroup.toJson c.groups),
    ("detailPagePath", optionJson c.detailPath)]

/-- The group of the fields of result rows. -/
def searchGroup : String := "search"

/-- The group of the fields that tell about the user. -/
def profileGroup : String := "userInfo"

def groupSelectors (g : FieldGroup) : List String :=
  g.values.flatMap fun q => q.selectors.toList

/-- The selectors that are read on documents. -/
def cssSelectors (c : SiteConfig) : List String :=
  let ofGroup := fun (name : String) => ((c.group? name).map groupSelectors).getD []
  let search :=
    if c.search.format = .document then c.search.rows.toList ++ ofGroup searchGroup else []
  let steps := c.profile.getD []
  let readsDocuments := steps.isEmpty || steps.any fun s => s.format = .document
  let profile := if readsDocuments then ofGroup profileGroup else []
  let others := c.groups.entries.filter fun g => g.1 != searchGroup && g.1 != profileGroup
  search ++ profile ++ others.flatMap fun g => groupSelectors g.2

/-- The selectors among them that are malformed, each once. -/
def brokenSelectors (c : SiteConfig) : List String :=
  (c.cssSelectors.filter fun s => (Css.Selector.parse? s).isNone).eraseDups

end SiteConfig

end Gleaner
