import Gleaner.Proofs.Filter.Zone
import Gleaner.Proofs.Site.Filters
import Gleaner.Proofs.Site.RoundTrip

/-!
Sites with an offset. A site that has one extracts what it would without, were the offset written
into its steps (`Site.offset_written`).
-/
namespace Gleaner

variable {zone : String}

/-- A configuration without an offset: it is written into the steps that read zoned times. -/
def SiteConfig.inZone (c : SiteConfig) (zone : String) : SiteConfig :=
  { c with timezoneOffset := none, groups := c.groups.mapValues (FieldGroup.inZone zone) }

/-- A site whose definition is a configuration with the offset written into the steps. -/
def Site.inZone (s : Site) (c : SiteConfig) (zone : String) : Site where
  definition := (c.inZone zone).toDefinition
  options := { s.options with overrides := .null }

/-- A site that is ready with the offset written into its steps, on the same filters. -/
def ReadySite.inZone (s : ReadySite) (filters : FilterRegistry) (zone : String) : ReadySite :=
  ⟨s.config.inZone zone, filters, s.headers⟩

namespace SiteConfig

theorem group?_inZone (c : SiteConfig) (zone name : String) :
    (c.inZone zone).group? name = (c.group? name).map (FieldGroup.inZone zone) :=
  Keyed.lookup_map (FieldGroup.inZone zone) name c.groups.entries

theorem filterRefs_inZone (c : SiteConfig) (zone : String) :
    (c.inZone zone).filterRefs = c.filterRefs := by
  simp [filterRefs, inZone, FieldGroup.inZone, FieldQuery.inZone, OrderedMap.mapValues,
    List.flatMap_map, List.map_map, Function.comp_def]

/-- The definition that a configuration is made of resolves to it. -/
theorem resolve_inZone {d : SiteDefinition} {o : Json} {c : SiteConfig} (policy : AuthPolicy)
    (h : resolve d o = .ok c) (zone : String) :
    resolve ({ c with authPolicy := policy }.inZone zone).toDefinition .null =
      .ok ({ c with authPolicy := policy }.inZone zone) := by
  obtain ⟨m, hm, hc⟩ := resolve_eq_ok.mp h
  obtain ⟨host, hurl, hhost, hshown, hactivate, hdefinition⟩ := ofDefinition_eq_ok hc
  -- Nothing that was changed is a JSON value that could repeat a key.
  have hkeyed : ({ c with authPolicy := policy }.inZone zone).toDefinition.toJson.WellKeyed := by
    have hm : ∀ j ∈ m.values, j.WellKeyed :=
      SiteDefinition.wellKeyed_toJson.mp (SiteDefinition.stable.wellKeyed _ m hm)
    have hvalues : m.values = c.toDefinition.values := by
      rw [hdefinition]
      rfl
    rw [hvalues] at hm
    exact SiteDefinition.wellKeyed_toJson.mpr hm
  have hread := SiteDefinition.stable.read_write _ hkeyed
  refine resolve_eq_ok.mpr ⟨_, by rw [Json.merge_null, hread], ?_⟩
  have hblank : unlessBlank (some c.url) = some c.url :=
    unlessBlank_eq_some.mpr ⟨rfl, (unlessBlank_eq_some.mp hurl).2⟩
  have hhost' : (unlessBlank (some c.host)).getD host = c.host := by
    rw [hshown, getD_unlessBlank_getD]
  have hactivate' : unlessBlank c.activateUrl = c.activateUrl := by
    rw [hactivate, unlessBlank_unlessBlank]
  simp only [ofDefinition, toDefinition, inZone, hblank, hhost, Except.map, hhost', hactivate']

end SiteConfig

namespace ReadySite

section

variable {s : ReadySite} {r : FilterRegistry} (h : s.filters = r.withDefaultZone zone)
include h

theorem searchPage_inZone (body : String) :
    (s.inZone r zone).searchPage body = s.searchPage body := by
  rw [searchPage, searchPage, inZone, SiteConfig.group?_inZone, h]
  cases s.config.group? SiteConfig.searchGroup with
  | none => rfl
  | some group => exact (Page.entities_withDefaultZone body _ _ group r zone).symm

theorem sectionPage_inZone (group body : String) (format : PageFormat)
    (only : Option (List String)) :
    (s.inZone r zone).sectionPage group body format only =
      s.sectionPage group body format only := by
  rw [sectionPage, sectionPage, inZone, SiteConfig.group?_inZone, h]
  cases s.config.group? group with
  | none => rfl
  | some fields => exact (Page.entity_withDefaultZone _ fields only r zone).symm

theorem profilePage_inZone (body : String) (format : PageFormat) (only : Option (List String)) :
    (s.inZone r zone).profilePage body format only = s.profilePage body format only :=
  sectionPage_inZone h SiteConfig.profileGroup body format only

theorem search_inZone (filter : SearchFilter) :
    (s.inZone r zone).search filter = s.search filter := by
  unfold search
  simp only [searchPage_inZone h]
  rfl

omit h in
theorem profileFields_inZone (s : ReadySite) (r : FilterRegistry) (zone : String) :
    (s.inZone r zone).profileFields = s.profileFields := by
  rw [profileFields, profileFields, inZone, SiteConfig.group?_inZone, Option.map_map]
  congr 2
  funext group
  exact Keyed.keys_map (FieldQuery.inZone zone) group.entries

theorem profileStep?_inZone (profile : Entity) (step : ProfileStep) :
    (s.inZone r zone).profileStep? profile step = s.profileStep? profile step := by
  simp only [profileStep?, stepFound, stepFields, profilePage_inZone h, profileFields_inZone]
  rfl

theorem profileSteps_inZone (profile : Entity) (steps : List ProfileStep) :
    (s.inZone r zone).profileSteps profile steps = s.profileSteps profile steps := by
  induction steps generalizing profile with
  | nil => rfl
  | cons step rest ih => simp only [profileSteps, profileStep?_inZone h, ih]

theorem userInfo_inZone : (s.inZone r zone).userInfo = s.userInfo := by
  have hprofile : (s.inZone r zone).config.profile = s.config.profile := rfl
  rw [userInfo, userInfo, hprofile]
  cases s.config.profile.getD [] with
  | nil =>
    simp only [profilePage_inZone h]
    rfl
  | cons step rest => exact profileSteps_inZone h OrderedMap.empty (step :: rest)

end

end ReadySite

namespace Site

/-- A site that is ready has a configuration whose filters are all known, under its own policy. -/
theorem exists_config_of_ready {s : Site} {ready : ReadySite} (h : s.ready = .ok ready) :
    ∃ c, SiteConfig.resolve s.definition s.options.overrides = .ok c ∧
      unknownFilter? c s.options.filters = none ∧
      ready = ⟨{ c with authPolicy := s.options.authPolicy.getD c.authPolicy },
        filtersOf c s.options.filters, s.options.headers⟩ := by
  cases hc : SiteConfig.resolve s.definition s.options.overrides with
  | error e =>
    rw [Site.ready, resolve, hc] at h
    cases h
  | ok c =>
    rw [Site.ready, resolve_of_resolve hc] at h
    cases hunknown : unknownFilter? c s.options.filters with
    | some e =>
      rw [hunknown] at h
      cases h
    | none =>
      rw [hunknown] at h
      cases h
      exact ⟨c, rfl, hunknown, rfl⟩

theorem ready_inZone {s : Site} {ready : ReadySite} (h : s.ready = .ok ready) (zone : String) :
    (s.inZone ready.config zone).ready = .ok (ready.inZone s.options.filters zone) := by
  obtain ⟨c, hc, hknown, rfl⟩ := exists_config_of_ready h
  let policy := s.options.authPolicy.getD c.authPolicy
  have hresolve := SiteConfig.resolve_inZone policy hc zone
  have hknown' : unknownFilter? ({ c with authPolicy := policy }.inZone zone)
      s.options.filters = none := by
    rw [unknownFilter?, SiteConfig.filterRefs_inZone]
    exact hknown
  have hpolicy : s.options.authPolicy.getD policy = policy := by
    cases h : s.options.authPolicy <;> simp [policy, h]
  rw [Site.ready, resolve_of_resolve hresolve]
  simp only [inZone, hknown']
  simp [ReadySite.inZone, filtersOf, SiteConfig.inZone, hpolicy, policy]

/-- Offsets that are bound to a registry one after another do what the last of them does when it is
written into every step that reads a zoned time without one. A step with an offset of its own, and
any other filter, does what it did, and the names in the registry are the same. So a site that has
an offset extracts the same as the site without it that has the offset in those steps, whatever
pages it is given and whatever it asks of a web. -/
theorem offset_written :
    (∀ (r : FilterRegistry) (zones : List String) (zone : String),
      let bound := (zones ++ [zone]).foldl FilterRegistry.withDefaultZone r
      (∀ steps value,
        bound.applyAll steps value = r.applyAll (steps.map (FilterStep.inZone zone)) value) ∧
      (∀ step value, step.name ≠ FilterRegistry.zoneFilter ∨ step.args ≠ [] →
        bound.apply step value = r.apply step value) ∧
      bound.filters.keys = r.filters.keys) ∧
    ∀ (s : Site) (ready : ReadySite) (zone : String),
      s.ready = .ok ready → ready.config.timezoneOffset = some zone →
      ∃ plain, (s.inZone ready.config zone).ready = .ok plain ∧
        plain.config = ready.config.inZone zone ∧ plain.filters = s.options.filters ∧
        (∀ body, ready.searchPage body = plain.searchPage body) ∧
        (∀ group body format only, ready.sectionPage group body format only =
          plain.sectionPage group body format only) ∧
        (∀ body format only, ready.profilePage body format only =
          plain.profilePage body format only) ∧
        (∀ filter, s.search filter = (s.inZone ready.config zone).search filter) ∧
        s.userInfo = (s.inZone ready.config zone).userInfo := by
  constructor
  · intro r zones zone
    refine ⟨FilterRegistry.applyAll_boundAll r zones zone, fun step value hstep => ?_,
      FilterRegistry.keys_boundAll r (zones ++ [zone])⟩
    have happly := FilterRegistry.applyAll_boundAll r zones zone [step] value
    have hkept : step.inZone zone = step :=
      hstep.elim FilterStep.inZone_of_name FilterStep.inZone_of_args
    rw [List.map_singleton, hkept] at happly
    exact happly
  · intro s ready zone h hzone
    have hplain := ready_inZone h zone
    have hfilters : ready.filters = s.options.filters.withDefaultZone zone := by
      obtain ⟨c, _, _, rfl⟩ := exists_config_of_ready h
      have hc : c.timezoneOffset = some zone := hzone
      simp only [filtersOf, hc]
    refine ⟨_, hplain, rfl, rfl, fun body => ?_, fun group body format only => ?_,
      fun body format only => ?_, fun filter => ?_, ?_⟩
    · exact (ReadySite.searchPage_inZone hfilters body).symm
    · exact (ReadySite.sectionPage_inZone hfilters group body format only).symm
    · exact (ReadySite.profilePage_inZone hfilters body format only).symm
    · rw [search, search, visit_of_ready h, visit_of_ready hplain,
        ReadySite.search_inZone hfilters]
    · rw [userInfo, userInfo, visit_of_ready h, visit_of_ready hplain,
        ReadySite.userInfo_inZone hfilters]

theorem offset_written_zonedSite :
    ∃ ready plain, (zonedSite (.builtin 0)).ready = .ok ready ∧
      ready.config.timezoneOffset = some "+0200" ∧
      ((zonedSite (.builtin 0)).inZone ready.config "+0200").ready = .ok plain ∧
      ∀ body, ready.sectionPage "userInfo" body .document none =
        plain.sectionPage "userInfo" body .document none := by
  obtain ⟨ready, hready, hzone⟩ : ∃ ready, (zonedSite (.builtin 0)).ready = .ok ready ∧
      ready.config.timezoneOffset = some "+0200" := ⟨_, rfl, rfl⟩
  obtain ⟨plain, hplain, _, _, _, hsection, _⟩ := offset_written.2 _ ready "+0200" hready hzone
  exact ⟨ready, plain, hready, hzone, hplain, fun body => hsection "userInfo" body .document none⟩

end Site

end Gleaner
