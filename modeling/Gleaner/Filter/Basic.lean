import Gleaner.Query
import Gleaner.Value
import Gleaner.Text.Quoted

/-!
Filters and registries of them. A filter is a total function of its arguments and a value; a
registry finds filters by name, and what it does not know changes nothing (`apply_of_not_contains`).
-/
namespace Gleaner

abbrev Filter := List String → FieldValue → FieldValue

structure FilterRegistry where
  filters : OrderedMap Filter

namespace FilterRegistry

def empty : FilterRegistry := ⟨OrderedMap.empty⟩

/-- Puts a filter under a name, in place of an earlier one. -/
def register (r : FilterRegistry) (name : String) (f : Filter) : FilterRegistry :=
  ⟨r.filters.insert name f⟩

def ofList (fs : List (String × Filter)) : FilterRegistry := ⟨OrderedMap.ofList fs⟩

def contains (r : FilterRegistry) (name : String) : Bool := r.filters.contains name

def names (r : FilterRegistry) : List String := r.filters.keys.mergeSort

def apply (r : FilterRegistry) (step : FilterStep) (value : FieldValue) : FieldValue :=
  match r.filters.get? step.name with
  | some f => f step.args value
  | none => value

/-- Sends a value through filters in their order. -/
def applyAll (r : FilterRegistry) (steps : List FilterStep) (value : FieldValue) : FieldValue :=
  steps.foldl (fun v step => r.apply step v) value

def zoneFilter : String := "parse_time_with_zone"

/-- Makes an offset the argument of zoned times that are read without one. -/
def withDefaultZone (r : FilterRegistry) (offset : String) : FilterRegistry :=
  match r.filters.get? zoneFilter with
  | none => r
  | some f => r.register zoneFilter fun args => f (if args.isEmpty then [offset] else args)

/-- The registry by the names in it. -/
def describe (r : FilterRegistry) : String :=
  "FilterRegistry \x7b filters: [" ++ ", ".intercalate (r.names.map Text.quoted) ++ "] \x7d"

theorem apply_of_not_contains {r : FilterRegistry} {step : FilterStep}
    (h : r.contains step.name = false) (value : FieldValue) : r.apply step value = value := by
  simp only [contains, OrderedMap.contains, Option.isSome_eq_false_iff,
    Option.isNone_iff_eq_none] at h
  simp [apply, h]

@[simp] theorem applyAll_nil (r : FilterRegistry) (value : FieldValue) :
    r.applyAll [] value = value :=
  rfl

theorem applyAll_cons (r : FilterRegistry) (step : FilterStep) (steps : List FilterStep)
    (value : FieldValue) :
    r.applyAll (step :: steps) value = r.applyAll steps (r.apply step value) := rfl

end FilterRegistry

end Gleaner
