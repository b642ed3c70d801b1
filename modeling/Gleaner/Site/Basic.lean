import Gleaner.Filter.Builtin
import Gleaner.Site.Search

/-!
Sites: a definition with what a caller sets for it. A site is *ready* once its configuration holds
and knows all filters that its fields name; from then on pages can be extracted and links made.
-/
namespace Gleaner

structure SiteOptions where
  /-- Headers of every request. -/
  headers : OrderedMap String
  filters : FilterRegistry
  /-- Used instead of the policy that the definition declares. -/
  authPolicy : Option AuthPolicy
  /-- Merged over the definition. -/
  overrides : Json

namespace SiteOptions

def ofFilters (filters : FilterRegistry) : SiteOptions := ⟨OrderedMap.empty, filters, none, .null⟩

def withHeader (o : SiteOptions) (name value : String) : SiteOptions :=
  { o with headers := o.headers.insert name value }

/-- A cookie carries the session of a user. -/
def withCookie (o : SiteOptions) (cookie : String) : SiteOptions := o.withHeader "cookie" cookie

def withPolicy (o : SiteOptions) (policy : AuthPolicy) : SiteOptions :=
  { o with authPolicy := policy }

/-- Later overrides are merged over earlier ones. -/
def override (o : SiteOptions) (overrides : Json) : SiteOptions :=
  { o with overrides := o.overrides.merge overrides }

end SiteOptions

structure Site where
  definition : SiteDefinition
  options : SiteOptions

/-- A site whose configuration holds, with the filters bound to it. -/
structure ReadySite where
  config : SiteConfig
  filters : FilterRegistry
  headers : OrderedMap String

namespace Site

def name (s : Site) : String := s.definition.name

/-- The first use of a filter that a registry lacks. -/
def unknownFilter? (c : SiteConfig) (filters : FilterRegistry) : Option ConfigError :=
  (c.filterRefs.find? fun r => !filters.contains r.2.2).map fun r => .unknownFilter r.1 r.2.1 r.2.2

/-- The configuration of a site, with the caller's policy. -/
def resolve (s : Site) : Except ConfigError SiteConfig := do
  let c ← SiteConfig.resolve s.definition s.options.overrides
  match unknownFilter? c s.options.filters with
  | some e => .error e
  | none => .ok { c with authPolicy := s.options.authPolicy.getD c.authPolicy }

/-- The filters of a site: times without a zone are in that of the site. -/
def filtersOf (c : SiteConfig) (filters : FilterRegistry) : FilterRegistry :=
  match c.timezoneOffset with
  | some offset => filters.withDefaultZone offset
  | none => filters

def configError (s : Site) (e : ConfigError) : SiteError :=
  ⟨.config, s.name, "Config", some (.config e)⟩

def ready (s : Site) : Except SiteError ReadySite :=
  match s.resolve with
  | .error e => .error (s.configError e)
  | .ok c => .ok ⟨c, filtersOf c s.options.filters, s.options.headers⟩

def config (s : Site) : Except SiteError SiteConfig := s.ready.map (·.config)

end Site

namespace ReadySite

def link (s : ReadySite) (raw : String) : String := Link.normalize s.config.activeUrl raw

/-- The entities of a page of search results. -/
def searchPage (s : ReadySite) (body : String) : List Entity :=
  match s.config.group? SiteConfig.searchGroup with
  | some group =>
    Page.entities body s.config.search.format s.config.search.rows group s.filters s.link
  | none => []

/-- The entity of one group on a whole page; it is empty when the site lacks the group. -/
def sectionPage (s : ReadySite) (group body : String) (format : PageFormat)
    (only : Option (List String)) : Entity :=
  match s.config.group? group with
  | some group => Page.summary body format group only s.filters s.link
  | none => OrderedMap.empty

def profilePage (s : ReadySite) (body : String) (format : PageFormat)
    (only : Option (List String)) :
    Entity :=
  s.sectionPage SiteConfig.profileGroup body format only

/-- The address of a detail page, when the site says where they are. -/
def detailLink (s : ReadySite) (id : String) : Option String :=
  s.config.detailPath.map fun path => s.link (Text.replaceAll "\x7bid\x7d" id path)

end ReadySite

end Gleaner
