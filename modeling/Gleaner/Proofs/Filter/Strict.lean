import Gleaner.Page
import Gleaner.Proofs.Keyed

/-!
Strict extraction. In a registry, a filter that is not in it changes nothing. Here such a filter has
no value, and nor has what is extracted through it: a field has a value just when the registry has
all its filters (`extract_eq`).
-/
namespace Gleaner

/-- What has a value throughout a list is a list of values. -/
theorem mapM_eq_some_map {α β : Type} {f : α → Option β} {g : α → β} {xs : List α}
    (h : ∀ x ∈ xs, f x = some (g x)) : xs.mapM f = some (xs.map g) := by
  induction xs with
  | nil => rfl
  | cons x xs ih =>
    have hx : f x = some (g x) := h x (by simp)
    have hxs : xs.mapM f = some (xs.map g) := ih fun y hy => h y (by simp [hy])
    simp [List.mapM_cons, hx, hxs]

namespace FilterRegistry

/-- A registry knows steps when it has the filters of all of them. -/
def Knows (r : FilterRegistry) (steps : List FilterStep) : Prop :=
  ∀ step ∈ steps, r.contains step.name = true

def KnowsFields (r : FilterRegistry) (fields : List (String × FieldQuery)) : Prop :=
  ∀ f ∈ fields, r.Knows f.2.filters

instance (r : FilterRegistry) (steps : List FilterStep) : Decidable (r.Knows steps) :=
  inferInstanceAs (Decidable (∀ step ∈ steps, _))

theorem knows_cons {r : FilterRegistry} {step : FilterStep} {steps : List FilterStep} :
    r.Knows (step :: steps) ↔ r.contains step.name = true ∧ r.Knows steps :=
  List.forall_mem_cons

/-- A default zone is bound to a filter that is there, and adds none. -/
theorem contains_withDefaultZone (r : FilterRegistry) (offset name : String) :
    (r.withDefaultZone offset).contains name = r.contains name := by
  unfold withDefaultZone
  split
  next => rfl
  next f hf =>
    unfold contains OrderedMap.contains register
    rw [OrderedMap.get?_insert]
    split
    next hname => rw [hname, hf, Option.isSome_some, Option.isSome_some]
    next => rfl

end FilterRegistry

namespace Strict

variable {r : FilterRegistry}

def apply (r : FilterRegistry) (step : FilterStep) (value : FieldValue) : Option FieldValue :=
  (r.filters.get? step.name).map fun f => f step.args value

def applyAll (r : FilterRegistry) (steps : List FilterStep) (value : FieldValue) :
    Option FieldValue :=
  steps.foldlM (fun v step => apply r step v) value

/-- Tries selectors in order. -/
def firstHit (raw : String → String) (pipeline : FieldValue → Option FieldValue) :
    List String → Option FieldValue
  | [] => pipeline (.text "")
  | s :: rest =>
    if (raw s).isEmpty then firstHit raw pipeline rest
    else do
      let v ← pipeline (.text (raw s))
      if v.isEmpty then firstHit raw pipeline rest else some v

def extract (source : Source) (q : FieldQuery) (r : FilterRegistry) : Option FieldValue :=
  firstHit (fun s => Extraction.read source s q) (applyAll r q.filters) q.selectors.toList

def field (source : Source) (r : FilterRegistry) (links : String → String) (name : String)
    (q : FieldQuery) : Option FieldValue := do
  let value ← extract source q r
  some (if Page.linkFields.contains name then .text (links value.asText) else value)

/-- The fields that are asked for; those that are not may have unknown filters. -/
def entity (source : Source) (group : FieldGroup) (only : Option (List String))
    (r : FilterRegistry) (links : String → String) : Option Entity := do
  let wanted := group.entries.filter fun f => only.all fun names => names.contains f.1
  let values ← wanted.mapM fun f => (field source r links f.1 f.2).map fun v => (f.1, v)
  some (OrderedMap.ofList values)

def entities (body : String) (format : PageFormat) (rows : Option String) (group : FieldGroup)
    (r : FilterRegistry) (links : String → String) : Option (List Entity) :=
  (Page.rows body format rows).mapM fun row => entity row group none r links

def summary (body : String) (format : PageFormat) (group : FieldGroup) (only : Option (List String))
    (r : FilterRegistry) (links : String → String) : Option Entity :=
  entity (Page.whole body format) group only r links

theorem apply_eq (step : FilterStep) (value : FieldValue) :
    apply r step value =
      if r.contains step.name = true then some (r.apply step value) else none := by
  unfold apply FilterRegistry.apply FilterRegistry.contains OrderedMap.contains
  cases r.filters.get? step.name <;> rfl

theorem applyAll_eq (steps : List FilterStep) (value : FieldValue) :
    applyAll r steps value = if r.Knows steps then some (r.applyAll steps value) else none := by
  induction steps generalizing value with
  | nil => simp [applyAll, FilterRegistry.Knows]
  | cons step steps ih =>
    have hcons : applyAll r (step :: steps) value =
        (apply r step value).bind fun v => applyAll r steps v := by
      rw [applyAll, List.foldlM_cons]
      rfl
    rw [hcons, apply_eq]
    by_cases hstep : r.contains step.name = true
    · simp [hstep, FilterRegistry.knows_cons, FilterRegistry.applyAll_cons, ih]
    · simp [hstep, FilterRegistry.knows_cons]

/-- The filters run at least once, on whatever text: so an unknown one never stays unnoticed. -/
theorem firstHit_eq {raw : String → String} {strict : FieldValue → Option FieldValue}
    {pipeline : FieldValue → FieldValue} {known : Prop} [Decidable known]
    (h : ∀ v, strict v = if known then some (pipeline v) else none) (selectors : List String) :
    firstHit raw strict selectors =
      if known then some (Extraction.firstHit raw pipeline selectors).value else none := by
  induction selectors with
  | nil => exact h _
  | cons s rest ih =>
    rw [firstHit, Extraction.firstHit, h, ih]
    by_cases hknown : known
    · simp only [hknown, if_true, Option.bind_eq_bind, Option.bind_some]
      split
      · rfl
      · split <;> rfl
    · simp [hknown]

/-- A field has a value just when the registry has all its filters, and then it is the value that is
extracted. -/
theorem extract_eq (source : Source) (q : FieldQuery) :
    extract source q r = if r.Knows q.filters then some (Gleaner.extract source q r) else none :=
  firstHit_eq (applyAll_eq q.filters) q.selectors.toList

theorem field_eq {source : Source} {links : String → String} {name : String} {q : FieldQuery}
    (h : r.Knows q.filters) :
    field source r links name q = some (Page.field source r links name q) := by
  rw [field, extract_eq, if_pos h]
  rfl

theorem entity_eq {source : Source} {group : FieldGroup} {only : Option (List String)}
    {links : String → String} (h : r.KnowsFields group.entries) :
    entity source group only r links = some (Page.entity source group only r links) := by
  let wanted := group.entries.filter fun f => only.all fun names => names.contains f.1
  have hvalues : wanted.mapM (fun f => (field source r links f.1 f.2).map fun v => (f.1, v)) =
      some (wanted.map fun f => (f.1, Page.field source r links f.1 f.2)) := by
    refine mapM_eq_some_map fun f hf => ?_
    rw [field_eq (h f (List.mem_filter.mp hf).1)]
    rfl
  exact congrArg (Option.bind · fun values => some (OrderedMap.ofList values)) hvalues

theorem entities_eq {body : String} {format : PageFormat} {rows : Option String}
    {group : FieldGroup} {links : String → String} (h : r.KnowsFields group.entries) :
    entities body format rows group r links = some (Page.entities body format rows group r links) :=
  mapM_eq_some_map fun _ _ => entity_eq h

theorem summary_eq {body : String} {format : PageFormat} {group : FieldGroup}
    {only : Option (List String)} {links : String → String} (h : r.KnowsFields group.entries) :
    summary body format group only r links = some (Page.summary body format group only r links) :=
  entity_eq h

end Strict

end Gleaner
