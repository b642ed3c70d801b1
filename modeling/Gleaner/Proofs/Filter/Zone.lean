import Gleaner.Page
import Gleaner.Proofs.Keyed

/-!
Default zones. To bind an offset to a registry is to write it into every step that reads a time
without one (`FilterRegistry.applyAll_boundAll`): of offsets bound one after another, that is the
last.
-/
namespace Gleaner

variable {r : FilterRegistry} {zone : String}

/-- A step that reads a zoned time without an offset gets one. -/
def FilterStep.inZone (zone : String) (step : FilterStep) : FilterStep :=
  if step.name = FilterRegistry.zoneFilter ∧ step.args = [] then
    .call FilterRegistry.zoneFilter [zone]
  else step

def FieldQuery.inZone (zone : String) (q : FieldQuery) : FieldQuery :=
  { q with filters := q.filters.map (FilterStep.inZone zone) }

def FieldGroup.inZone (zone : String) (g : FieldGroup) : FieldGroup :=
  OrderedMap.mapValues (FieldQuery.inZone zone) g

namespace FilterStep

theorem inZone_of_bare {step : FilterStep} (hname : step.name = FilterRegistry.zoneFilter)
    (hargs : step.args = []) : step.inZone zone = .call FilterRegistry.zoneFilter [zone] :=
  if_pos ⟨hname, hargs⟩

theorem inZone_of_name {step : FilterStep} (h : step.name ≠ FilterRegistry.zoneFilter) :
    step.inZone zone = step :=
  if_neg fun hbare => h hbare.1

theorem inZone_of_args {step : FilterStep} (h : step.args ≠ []) : step.inZone zone = step :=
  if_neg fun hbare => h hbare.2

@[simp] theorem name_inZone (zone : String) (step : FilterStep) :
    (step.inZone zone).name = step.name := by
  unfold inZone
  split
  next h => exact h.1.symm
  next => rfl

/-- A step that has its offset keeps it. -/
theorem inZone_inZone (outer inner : String) (step : FilterStep) :
    (step.inZone inner).inZone outer = step.inZone inner := by
  by_cases hname : step.name = FilterRegistry.zoneFilter
  · refine inZone_of_args ?_
    by_cases hargs : step.args = []
    · rw [inZone_of_bare hname hargs]
      exact List.cons_ne_nil _ _
    · rwa [inZone_of_args hargs]
  · rw [inZone_of_name hname, inZone_of_name hname]

end FilterStep

namespace FilterRegistry

theorem withDefaultZone_of_none (h : r.filters.get? zoneFilter = none) :
    r.withDefaultZone zone = r := by
  rw [withDefaultZone, h]

theorem withDefaultZone_of_some {f : Filter} (h : r.filters.get? zoneFilter = some f) :
    r.withDefaultZone zone =
      r.register zoneFilter fun args => f (if args.isEmpty then [zone] else args) := by
  rw [withDefaultZone, h]

theorem get?_withDefaultZone (r : FilterRegistry) (zone name : String) :
    (r.withDefaultZone zone).filters.get? name =
      if name = zoneFilter then
        (r.filters.get? zoneFilter).map fun f args => f (if args.isEmpty then [zone] else args)
      else r.filters.get? name := by
  cases hf : r.filters.get? zoneFilter with
  | none =>
    rw [withDefaultZone_of_none hf, Option.map_none]
    by_cases h : name = zoneFilter
    · rw [if_pos h, h, hf]
    · rw [if_neg h]
  | some f =>
    rw [withDefaultZone_of_some hf]
    exact OrderedMap.get?_insert r.filters zoneFilter name _

theorem keys_withDefaultZone (r : FilterRegistry) (zone : String) :
    (r.withDefaultZone zone).filters.keys = r.filters.keys := by
  cases hf : r.filters.get? zoneFilter with
  | none => rw [withDefaultZone_of_none hf]
  | some f =>
    have hmem : zoneFilter ∈ r.filters.keys := OrderedMap.mem_keys_iff.mpr ⟨f, hf⟩
    rw [withDefaultZone_of_some hf]
    exact (OrderedMap.keys_insert r.filters zoneFilter _).trans (if_pos hmem)

/-- A bound registry does to a value what the registry itself does in a step with the offset. -/
theorem apply_withDefaultZone (r : FilterRegistry) (zone : String) (step : FilterStep)
    (value : FieldValue) :
    (r.withDefaultZone zone).apply step value = r.apply (step.inZone zone) value := by
  unfold apply
  rw [get?_withDefaultZone, FilterStep.name_inZone]
  by_cases hname : step.name = zoneFilter
  · rw [if_pos hname, hname]
    cases r.filters.get? zoneFilter with
    | none => rfl
    | some f =>
      rw [Option.map_some]
      by_cases hargs : step.args = []
      · rw [FilterStep.inZone_of_bare hname hargs, hargs]
        rfl
      · have hne : step.args.isEmpty = false := by simpa using hargs
        simp only [FilterStep.inZone_of_args hargs, hne, Bool.false_eq_true, ↓reduceIte]
  · rw [if_neg hname, FilterStep.inZone_of_name hname]

theorem applyAll_withDefaultZone (r : FilterRegistry) (zone : String) (steps : List FilterStep)
    (value : FieldValue) :
    (r.withDefaultZone zone).applyAll steps value =
      r.applyAll (steps.map (FilterStep.inZone zone)) value := by
  induction steps generalizing value with
  | nil => rfl
  | cons step steps ih =>
    rw [List.map_cons, applyAll_cons, applyAll_cons, apply_withDefaultZone, ih]

/-- A registry with offsets bound to it one after another. -/
def boundAll (r : FilterRegistry) (zones : List String) : FilterRegistry :=
  zones.foldl withDefaultZone r

theorem boundAll_concat (r : FilterRegistry) (zones : List String) (zone : String) :
    r.boundAll (zones ++ [zone]) = (r.boundAll zones).withDefaultZone zone :=
  List.foldl_append

/-- Steps that have their offsets do not see what is bound. -/
theorem applyAll_boundAll_of_inZone (r : FilterRegistry) (zones : List String) (zone : String)
    (steps : List FilterStep) (value : FieldValue) :
    (r.boundAll zones).applyAll (steps.map (FilterStep.inZone zone)) value =
      r.applyAll (steps.map (FilterStep.inZone zone)) value := by
  induction zones generalizing r with
  | nil => rfl
  | cons first zones ih =>
    have hkept : (steps.map (FilterStep.inZone zone)).map (FilterStep.inZone first) =
        steps.map (FilterStep.inZone zone) := by
      rw [List.map_map]
      exact List.map_congr_left fun step _ => FilterStep.inZone_inZone first zone step
    rw [boundAll, List.foldl_cons, ← boundAll, ih, applyAll_withDefaultZone, hkept]

/-- Of offsets bound one after another the last counts, as if it were written into the steps. -/
theorem applyAll_boundAll (r : FilterRegistry) (zones : List String) (zone : String)
    (steps : List FilterStep) (value : FieldValue) :
    (r.boundAll (zones ++ [zone])).applyAll steps value =
      r.applyAll (steps.map (FilterStep.inZone zone)) value := by
  rw [boundAll_concat, applyAll_withDefaultZone, applyAll_boundAll_of_inZone]

theorem keys_boundAll (r : FilterRegistry) (zones : List String) :
    (r.boundAll zones).filters.keys = r.filters.keys := by
  induction zones generalizing r with
  | nil => rfl
  | cons zone zones ih => rw [boundAll, List.foldl_cons, ← boundAll, ih, keys_withDefaultZone]

end FilterRegistry

/-! ### Extraction -/

theorem extract_withDefaultZone (source : Source) (q : FieldQuery) (r : FilterRegistry)
    (zone : String) :
    extract source q (r.withDefaultZone zone) = extract source (q.inZone zone) r := by
  have hpipeline : (r.withDefaultZone zone).applyAll q.filters =
      r.applyAll (q.filters.map (FilterStep.inZone zone)) :=
    funext fun value => FilterRegistry.applyAll_withDefaultZone r zone q.filters value
  have hread : (fun s => Extraction.read source s q) =
      fun s => Extraction.read source s (q.inZone zone) := by
    funext s
    cases source <;> rfl
  rw [extract, extract, Extraction.run, Extraction.run, hpipeline, hread]
  rfl

namespace Page

variable {links : String → String}

theorem field_withDefaultZone (source : Source) (r : FilterRegistry) (zone name : String)
    (q : FieldQuery) :
    field source (r.withDefaultZone zone) links name q =
      field source r links name (q.inZone zone) := by
  rw [field, field, extract_withDefaultZone]

theorem entity_withDefaultZone (source : Source) (group : FieldGroup)
    (only : Option (List String)) (r : FilterRegistry) (zone : String) :
    entity source group only (r.withDefaultZone zone) links =
      entity source (group.inZone zone) only r links := by
  simp only [entity, FieldGroup.inZone, OrderedMap.mapValues, List.filter_map, List.map_map,
    field_withDefaultZone]
  rfl

theorem entities_withDefaultZone (body : String) (format : PageFormat) (rows : Option String)
    (group : FieldGroup) (r : FilterRegistry) (zone : String) :
    entities body format rows group (r.withDefaultZone zone) links =
      entities body format rows (group.inZone zone) r links :=
  List.map_congr_left fun row _ => entity_withDefaultZone row group none r zone

end Page

end Gleaner
