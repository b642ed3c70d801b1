import Gleaner.Proofs.Site.Resolve
import Gleaner.Site.Builtin

/-!
Definitions read back. A definition holds JSON values of any shape, as parameters of its requests
and as options of its categories (`SiteDefinition.values`). Where none of them repeats a key,
nothing that is written of the definition does (`SiteDefinition.wellKeyed_toJson`), and merging
nothing over it gives it back.
-/
namespace Gleaner

open Json

@[simp] theorem wellKeyed_str (s : String) : (str s).WellKeyed := trivial

@[simp] theorem wellKeyedAt_none : WellKeyedAt none := by simp [WellKeyedAt]

@[simp] theorem wellKeyedAt_str (s : Option String) : WellKeyedAt (s.map .str) := by
  cases s <;> simp [wellKeyedAt_some]

theorem wellKeyedAt_omitIf {absent : Bool} {j : Json} :
    WellKeyedAt (omitIf absent j) ↔ (absent = false → j.WellKeyed) := by
  cases absent with
  | true => simp [omitIf]
  | false => simp [omitIf, wellKeyedAt_some]

theorem wellKeyed_map {α : Type} {write : α → Json} {vs : List α} :
    (arr (vs.map write)).WellKeyed ↔ ∀ v ∈ vs, (write v).WellKeyed := by
  rw [wellKeyed_arr, List.forall_mem_map]

theorem wellKeyedAt_omitted_array {α : Type} {write : α → Json} {vs : List α} :
    WellKeyedAt (omitIf vs.isEmpty (.arr (vs.map write))) ↔ ∀ v ∈ vs, (write v).WellKeyed := by
  rw [wellKeyedAt_omitIf, wellKeyed_map]
  cases vs <;> simp

theorem wellKeyedAt_omitted_map {α : Type} {write : α → Json} {m : OrderedMap α} :
    WellKeyedAt (omitIf m.isEmpty (ofMap write m)) ↔ ∀ e ∈ m.entries, (write e.2).WellKeyed := by
  rw [wellKeyedAt_omitIf, wellKeyed_ofMap, OrderedMap.isEmpty]
  cases m.entries <;> simp

theorem Selectors.wellKeyed_toJson (s : Selectors) : s.toJson.WellKeyed := by
  cases s with
  | one s => trivial
  | many ss => exact wellKeyed_ofStrings ss

theorem FilterStep.wellKeyed_toJson (f : FilterStep) : f.toJson.WellKeyed := by
  cases f with
  | named n => trivial
  | call n args =>
    refine callLayout.wellKeyed_iff.mpr ?_
    simp only [callSlots, List.forall_mem_cons]
    exact ⟨wellKeyedAt_some.mpr (wellKeyed_str n), wellKeyedAt_some.mpr (wellKeyed_ofStrings args),
      List.forall_mem_nil _⟩

theorem FieldQuery.wellKeyed_toJson (q : FieldQuery) : q.toJson.WellKeyed := by
  refine layout.wellKeyed_iff.mpr ?_
  simp only [slots, List.forall_mem_cons]
  exact ⟨wellKeyedAt_some.mpr q.selectors.wellKeyed_toJson, wellKeyedAt_str _, wellKeyedAt_str _,
    wellKeyedAt_omitted_array.mpr fun f _ => f.wellKeyed_toJson, List.forall_mem_nil _⟩

theorem FieldGroup.wellKeyed_toJson (g : FieldGroup) : g.toJson.WellKeyed :=
  wellKeyed_ofMap.mpr fun e _ => e.2.wellKeyed_toJson

theorem RequestTemplate.wellKeyed_toJson {t : RequestTemplate} :
    t.toJson.WellKeyed ↔ ∀ j ∈ t.params.values, j.WellKeyed := by
  have hparams : WellKeyedAt (omitIf t.params.isEmpty (ofMap id t.params)) ↔
      ∀ j ∈ t.params.values, j.WellKeyed := by
    rw [wellKeyedAt_omitted_map, OrderedMap.values, List.forall_mem_map]
    rfl
  have hheaders : WellKeyedAt (omitIf t.headers.isEmpty (ofMap .str t.headers)) :=
    wellKeyedAt_omitted_map.mpr fun _ _ => wellKeyed_str _
  rw [toJson, layout.wellKeyed_iff]
  simp [slots, Slot.optional, Slot.omitted, hparams, hheaders]

theorem CategoryOption.wellKeyed_toJson {o : CategoryOption} :
    o.toJson.WellKeyed ↔ o.value.WellKeyed := by
  rw [toJson, layout.wellKeyed_iff]
  simp [slots, Slot.required, wellKeyedAt_some]

theorem Category.wellKeyed_toJson {c : Category} :
    c.toJson.WellKeyed ↔ ∀ o ∈ c.options, o.value.WellKeyed := by
  rw [toJson, layout.wellKeyed_iff]
  simp [slots, Slot.required, Slot.withDefault, wellKeyedAt_some, wellKeyed_map,
    CategoryOption.wellKeyed_toJson]

/-- The JSON values that search settings hold. -/
def SearchSettings.values (s : SearchSettings) : List Json :=
  s.request.params.values ++ s.categories.flatMap fun c => c.options.map CategoryOption.value

theorem SearchSettings.wellKeyed_toJson {s : SearchSettings} :
    s.toJson.WellKeyed ↔ ∀ j ∈ s.values, j.WellKeyed := by
  rw [toJson, layout.wellKeyed_iff]
  simp only [slots, Slot.optional, Slot.withDefault, Slot.omitted, List.forall_mem_cons,
    wellKeyedAt_str, wellKeyedAt_some, wellKeyedAt_omitted_array, RequestTemplate.wellKeyed_toJson,
    Category.wellKeyed_toJson, wellKeyed_str, values, List.forall_mem_append,
    List.forall_mem_flatMap, List.forall_mem_map]
  simp

theorem ProfileStep.wellKeyed_toJson {s : ProfileStep} :
    s.toJson.WellKeyed ↔ ∀ j ∈ s.request.params.values, j.WellKeyed := by
  have hassertion : WellKeyedAt (omitIf s.assertion.isEmpty (ofMap .str s.assertion)) :=
    wellKeyedAt_omitted_map.mpr fun _ _ => wellKeyed_str _
  rw [toJson, layout.wellKeyed_iff]
  simp [slots, Slot.withDefault, Slot.omitted, wellKeyedAt_some, RequestTemplate.wellKeyed_toJson,
    hassertion, wellKeyed_ofStrings]

theorem ProfileStep.wellKeyed_sectionToJson {steps : List ProfileStep} :
    (sectionToJson steps).WellKeyed ↔
      ∀ s ∈ steps, ∀ j ∈ s.request.params.values, j.WellKeyed := by
  rw [sectionToJson, sectionLayout.wellKeyed_iff]
  simp [sectionSlots, Slot.withDefault, wellKeyedAt_some, wellKeyed_map, wellKeyed_toJson]

namespace SiteDefinition

/-- The JSON values that a definition holds: parameters of requests, and options of categories. -/
def values (d : SiteDefinition) : List Json :=
  d.search.values ++ (d.profile.getD []).flatMap fun s => s.request.params.values

/-- A definition is written without repeating a key just when no value that it holds repeats one. -/
theorem wellKeyed_toJson {d : SiteDefinition} :
    d.toJson.WellKeyed ↔ ∀ j ∈ d.values, j.WellKeyed := by
  have hgroups : (ofMap FieldGroup.toJson d.groups).WellKeyed :=
    wellKeyed_ofMap.mpr fun e _ => FieldGroup.wellKeyed_toJson e.2
  have haka : WellKeyedAt (omitIf d.aka.isEmpty (ofStrings d.aka)) :=
    wellKeyedAt_omitIf.mpr fun _ => wellKeyed_ofStrings d.aka
  have htags : WellKeyedAt (omitIf d.tags.isEmpty (ofStrings d.tags)) :=
    wellKeyedAt_omitIf.mpr fun _ => wellKeyed_ofStrings d.tags
  have hprofile : WellKeyedAt (d.profile.map ProfileStep.sectionToJson) ↔
      ∀ s ∈ d.profile.getD [], ∀ j ∈ s.request.params.values, j.WellKeyed := by
    cases d.profile with
    | none => simp
    | some steps => simp [wellKeyedAt_some, ProfileStep.wellKeyed_sectionToJson]
  rw [toJson, layout.wellKeyed_iff]
  simp only [slots, Slot.optional, Slot.withDefault, Slot.omitted, List.forall_mem_cons,
    wellKeyedAt_str, wellKeyedAt_some, SearchSettings.wellKeyed_toJson, wellKeyed_str, hgroups,
    haka, htags, hprofile, values, List.forall_mem_append, List.forall_mem_flatMap]
  simp

/-- Nothing is lost when a definition is written as JSON: with nothing merged over it, it is read
back as it was, its maps in their order. Objects are maps, so the values in it repeat no key. -/
theorem override_nothing {d : SiteDefinition} (h : ∀ j ∈ d.values, j.WellKeyed) :
    d.override (.obj []) = .ok d ∧ d.override .null = .ok d := by
  have hread : ofJson? d.toJson = some d := stable.read_write d (wellKeyed_toJson.mpr h)
  constructor
  · rw [override, SiteConfig.toJson_merge_nil, hread]
  · rw [override, merge_null, hread]

/-- A builtin site whose search has a nested parameter. -/
def nestedSite : SiteDefinition :=
  let filter := Json.obj [("b", .null), ("a", .arr [.obj []])]
  { Builtin.sdBits with
    search := { SearchSettings.empty with
      request := Builtin.page "/browse.php" [("filter", filter)] } }

theorem override_nothing_nested :
    (∀ j ∈ nestedSite.values, j.WellKeyed) ∧
      nestedSite.override (.obj []) = .ok nestedSite ∧
      nestedSite.override .null = .ok nestedSite := by
  have hvalues : ∀ j ∈ nestedSite.values, j.WellKeyed := by
    have he : nestedSite.values = [.obj [("b", .null), ("a", .arr [.obj []])]] := rfl
    simp [he, WellKeyed, WellKeyedMembers, WellKeyedItems]
  exact ⟨hvalues, override_nothing hvalues⟩

end SiteDefinition

end Gleaner
