import Gleaner.Proofs.Filter.Strict
import Gleaner.Proofs.Site.Visit

/-!
Filters of ready sites. A site is ready only when its registry has all filters that its fields name
(`Site.knownBy_of_ready`), so that nothing is ever extracted through an unknown one; otherwise the
error names the first use of a filter that is missing.
-/
namespace Gleaner

open Web

namespace SiteConfig

variable {c : SiteConfig} {r : FilterRegistry}

/-- A registry knows a configuration when it has the filters of all fields in all groups. -/
def KnownBy (c : SiteConfig) (r : FilterRegistry) : Prop :=
  ∀ g ∈ c.groups.entries, r.KnowsFields g.2.entries

/-- The first use of a filter that a registry lacks: it has all filters of the groups before it, of
the fields before it in its group, and before it in its field. -/
def FirstUnknown (c : SiteConfig) (r : FilterRegistry) (group field filter : String) : Prop :=
  ∃ groups fields groups' queries q queries' steps step steps',
    c.groups.entries = groups ++ (group, fields) :: groups' ∧
    fields.entries = queries ++ (field, q) :: queries' ∧
    q.filters = steps ++ step :: steps' ∧
    step.name = filter ∧ r.contains filter = false ∧
    (∀ g ∈ groups, r.KnowsFields g.2.entries) ∧ r.KnowsFields queries ∧ r.Knows steps

theorem find?_filterRefs_eq_none :
    (c.filterRefs.find? fun ref => !r.contains ref.2.2) = none ↔ c.KnownBy r := by
  simp [filterRefs, KnownBy, FilterRegistry.KnowsFields, FilterRegistry.Knows]

theorem firstUnknown_of_find? {group field filter : String}
    (h : (c.filterRefs.find? fun ref => !r.contains ref.2.2) = some (group, field, filter)) :
    c.FirstUnknown r group field filter := by
  rw [filterRefs, List.find?_flatMap] at h
  obtain ⟨groups, g, groups', hgroups, hg, hgroupsKnown⟩ := List.findSome?_eq_some_iff.mp h
  rw [List.find?_flatMap] at hg
  obtain ⟨queries, f, queries', hqueries, hf, hqueriesKnown⟩ := List.findSome?_eq_some_iff.mp hg
  rw [List.find?_map] at hf
  obtain ⟨step, hstep, hnames⟩ := Option.map_eq_some_iff.mp hf
  obtain ⟨hmissing, steps, steps', hsteps, hstepsKnown⟩ := List.find?_eq_some_iff_append.mp hstep
  obtain ⟨rfl, rfl, rfl⟩ : g.1 = group ∧ f.1 = field ∧ step.name = filter := by simpa using hnames
  refine ⟨groups, g.2, groups', queries, f.2, queries', steps, step, steps', hgroups, hqueries,
    hsteps, rfl, by simpa using hmissing, ?_, ?_, ?_⟩
  · simpa [FilterRegistry.KnowsFields, FilterRegistry.Knows] using hgroupsKnown
  · simpa [FilterRegistry.KnowsFields, FilterRegistry.Knows] using hqueriesKnown
  · simpa [FilterRegistry.Knows] using hstepsKnown

/-- With a default zone the registry knows no less. -/
theorem KnownBy.filtersOf (h : c.KnownBy r) : c.KnownBy (Site.filtersOf c r) := by
  unfold Site.filtersOf
  split
  next offset _ =>
    intro g hg f hf step hstep
    rw [FilterRegistry.contains_withDefaultZone]
    exact h g hg f hf step hstep
  next => exact h

end SiteConfig

namespace Site

theorem unknownFilter?_eq_none {c : SiteConfig} {r : FilterRegistry} :
    unknownFilter? c r = none ↔ c.KnownBy r := by
  rw [unknownFilter?, Option.map_eq_none_iff, SiteConfig.find?_filterRefs_eq_none]

theorem firstUnknown_of_unknownFilter? {c : SiteConfig} {r : FilterRegistry} {e : ConfigError}
    (h : unknownFilter? c r = some e) :
    ∃ group field filter, e = .unknownFilter group field filter ∧
      c.FirstUnknown r group field filter := by
  obtain ⟨⟨group, field, filter⟩, href, rfl⟩ := Option.map_eq_some_iff.mp h
  exact ⟨group, field, filter, rfl, SiteConfig.firstUnknown_of_find? href⟩

theorem resolve_of_resolve {s : Site} {c : SiteConfig}
    (hc : SiteConfig.resolve s.definition s.options.overrides = .ok c) :
    s.resolve =
      match unknownFilter? c s.options.filters with
      | some e => .error e
      | none => .ok { c with authPolicy := s.options.authPolicy.getD c.authPolicy } := by
  rw [resolve, hc]
  rfl

/-- A site that is ready has all filters that its configuration names. -/
theorem knownBy_of_ready {s : Site} {r : ReadySite} (h : s.ready = .ok r) :
    r.config.KnownBy r.filters := by
  unfold ready at h
  split at h
  next => cases h
  next c hresolve =>
    cases h
    cases hc : SiteConfig.resolve s.definition s.options.overrides with
    | error e =>
      rw [resolve, hc] at hresolve
      cases hresolve
    | ok merged =>
      rw [resolve_of_resolve hc] at hresolve
      split at hresolve
      next => cases hresolve
      next hknown =>
        cases hresolve
        exact SiteConfig.KnownBy.filtersOf (unknownFilter?_eq_none.mp hknown)

/-- A configuration that holds but for its filters fails with the first that is missing. -/
theorem config_of_unknown {s : Site} {c : SiteConfig}
    (hc : SiteConfig.resolve s.definition s.options.overrides = .ok c)
    (h : ¬ c.KnownBy s.options.filters) :
    ∃ group field filter, c.FirstUnknown s.options.filters group field filter ∧
      s.config = .error
        ⟨.config, s.name, "Config", some (.config (.unknownFilter group field filter))⟩ := by
  cases he : unknownFilter? c s.options.filters with
  | none => exact absurd (unknownFilter?_eq_none.mp he) h
  | some e =>
    obtain ⟨group, field, filter, rfl, hfirst⟩ := firstUnknown_of_unknownFilter? he
    refine ⟨group, field, filter, hfirst, ?_⟩
    have hresolve := resolve_of_resolve hc
    rw [he] at hresolve
    rw [config, ready, hresolve]
    rfl

end Site

/-! ### Strict pages and visits -/

namespace Strict

def searchPage (s : ReadySite) (body : String) : Option (List Entity) :=
  match s.config.group? SiteConfig.searchGroup with
  | some group =>
    entities body s.config.search.format s.config.search.rows group s.filters s.link
  | none => some []

def sectionPage (s : ReadySite) (group body : String) (format : PageFormat)
    (only : Option (List String)) : Option Entity :=
  match s.config.group? group with
  | some group => summary body format group only s.filters s.link
  | none => some OrderedMap.empty

def profilePage (s : ReadySite) (body : String) (format : PageFormat)
    (only : Option (List String)) : Option Entity :=
  sectionPage s SiteConfig.profileGroup body format only

/-- A search that ends without a value when it comes to an unknown filter. -/
def search (s : ReadySite) (filter : SearchFilter) : SiteVisit (Option (List Entity)) := do
  let response ← s.send "Search" (s.config.search.build filter)
  return searchPage s response.text

def profileSteps (s : ReadySite) (profile : Entity) :
    List ProfileStep → SiteVisit (Option Entity)
  | [] => return some profile
  | step :: rest =>
    match ReadySite.assertedParams? profile step.assertion.entries with
    | none => profileSteps s profile rest
    | some params => do
      let response ← s.send "UserInfo" (ReadySite.stepRequest step params)
      match profilePage s response.text step.format (some (s.stepFields profile step)) with
      | none => return none
      | some found => profileSteps s (profile.mergeFilled found) rest

/-- A profile that ends without a value, and asks for nothing more, when it comes to an unknown
filter. -/
def userInfo (s : ReadySite) : SiteVisit (Option Entity) :=
  match s.config.profile.getD [] with
  | [] => do
    let response ← s.send "UserInfo" (Request.get "")
    return profilePage s response.text .document none
  | steps => profileSteps s OrderedMap.empty steps

section
variable {s : ReadySite} (h : s.config.KnownBy s.filters)
include h

theorem knowsFields_of_group? {name : String} {group : FieldGroup}
    (hg : s.config.group? name = some group) : s.filters.KnowsFields group.entries :=
  h (name, group) (Keyed.mem_of_lookup hg)

theorem searchPage_eq (body : String) : searchPage s body = some (s.searchPage body) := by
  rw [searchPage, ReadySite.searchPage]
  cases hg : s.config.group? SiteConfig.searchGroup with
  | none => rfl
  | some group => exact entities_eq (knowsFields_of_group? h hg)

theorem sectionPage_eq (group body : String) (format : PageFormat) (only : Option (List String)) :
    sectionPage s group body format only = some (s.sectionPage group body format only) := by
  rw [sectionPage, ReadySite.sectionPage]
  cases hg : s.config.group? group with
  | none => rfl
  | some fields => exact summary_eq (knowsFields_of_group? h hg)

theorem profilePage_eq (body : String) (format : PageFormat) (only : Option (List String)) :
    profilePage s body format only = some (s.profilePage body format only) :=
  sectionPage_eq h SiteConfig.profileGroup body format only

theorem search_eq (filter : SearchFilter) :
    search s filter = do return some (← s.search filter) := by
  simp only [search, ReadySite.search, bind_assoc, pure_bind, searchPage_eq h]

theorem profileSteps_eq (profile : Entity) (steps : List ProfileStep) :
    profileSteps s profile steps = do return some (← s.profileSteps profile steps) := by
  induction steps generalizing profile with
  | nil => rfl
  | cons step rest ih =>
    rw [profileSteps, ReadySite.profileSteps, ReadySite.profileStep?]
    cases ReadySite.assertedParams? profile step.assertion.entries with
    | none => exact ih profile
    | some params =>
      simp only [Option.map_some, bind_assoc, pure_bind, profilePage_eq h, ih]
      rfl

theorem userInfo_eq : userInfo s = do return some (← s.userInfo) := by
  rw [userInfo, ReadySite.userInfo]
  cases s.config.profile.getD [] with
  | nil => simp only [bind_assoc, pure_bind, profilePage_eq h]
  | cons step rest => exact profileSteps_eq h OrderedMap.empty (step :: rest)

end

end Strict

namespace Site

/-- A site whose configuration is given never comes to an unknown filter: whatever pages it extracts
and whatever it is asked over a web, strict extraction finds the same, and asks the same. Where the
merged configuration resolves but names a filter that is missing, the configuration fails with the
first such use. -/
theorem filters_known (s : Site) :
    (∀ c, s.config = .ok c → ∃ r, s.ready = .ok r ∧ r.config = c ∧
      (∀ body, Strict.searchPage r body = some (r.searchPage body)) ∧
      (∀ group body format only, Strict.sectionPage r group body format only =
        some (r.sectionPage group body format only)) ∧
      (∀ body format only, Strict.profilePage r body format only =
        some (r.profilePage body format only)) ∧
      (∀ filter, s.visit (Strict.search · filter) = do return some (← s.search filter)) ∧
      s.visit Strict.userInfo = do return some (← s.userInfo)) ∧
    ∀ c, SiteConfig.resolve s.definition s.options.overrides = .ok c →
      (∃ g ∈ c.groups.entries, ∃ f ∈ g.2.entries, ∃ step ∈ f.2.filters,
        s.options.filters.contains step.name = false) →
      ∃ group field filter, c.FirstUnknown s.options.filters group field filter ∧
        s.config = .error
          ⟨.config, s.name, "Config", some (.config (.unknownFilter group field filter))⟩ := by
  constructor
  · intro c hc
    unfold config at hc
    cases hready : s.ready with
    | error e =>
      rw [hready] at hc
      cases hc
    | ok r =>
      rw [hready] at hc
      cases hc
      have hknown : r.config.KnownBy r.filters := knownBy_of_ready hready
      refine ⟨r, rfl, rfl, Strict.searchPage_eq hknown, Strict.sectionPage_eq hknown,
        Strict.profilePage_eq hknown, fun filter => ?_, ?_⟩
      · rw [search, visit_of_ready hready, visit_of_ready hready, Strict.search_eq hknown]
      · rw [userInfo, visit_of_ready hready, visit_of_ready hready, Strict.userInfo_eq hknown]
  · rintro c hc ⟨g, hg, f, hf, step, hstep, hmissing⟩
    refine config_of_unknown hc fun hknown => ?_
    rw [hknown g hg f hf step hstep] at hmissing
    cases hmissing

/-- A site that reads one time, in its own zone. -/
def zonedSite (filters : FilterRegistry) : Site where
  definition := { SiteDefinition.empty with
    name := "Site", url := some "http://[::1]/", timezoneOffset := some "+0200",
    groups := .ofList [("userInfo", .ofList [("joined",
      (FieldQuery.ofSelectors (.one "td")).withFilter (.named FilterRegistry.zoneFilter))])] }
  options := .ofFilters filters

theorem filters_known_zoned :
    (∃ c, (zonedSite (.builtin 0)).config = .ok c ∧
      (zonedSite (.builtin 0)).visit Strict.userInfo = do
        return some (← (zonedSite (.builtin 0)).userInfo)) ∧
    ∃ c, SiteConfig.resolve (zonedSite .empty).definition .null = .ok c ∧
      ∃ group field filter, c.FirstUnknown .empty group field filter ∧
        (zonedSite .empty).config = .error
          ⟨.config, "Site", "Config", some (.config (.unknownFilter group field filter))⟩ := by
  constructor
  · obtain ⟨c, hc⟩ : ∃ c, (zonedSite (.builtin 0)).config = .ok c := ⟨_, rfl⟩
    obtain ⟨r, _, _, _, _, _, _, hprofile⟩ := (filters_known (zonedSite (.builtin 0))).1 c hc
    exact ⟨c, hc, hprofile⟩
  · refine ⟨_, rfl, (filters_known (zonedSite .empty)).2 _ rfl ?_⟩
    exact ⟨_, .head _, _, .head _, _, .head _, rfl⟩

end Site

end Gleaner
