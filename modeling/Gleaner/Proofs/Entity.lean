import Gleaner.Page
import Gleaner.Proofs.Keyed

/-!
Which fields of an entity are filled, and what extraction and merging do to them. Merging fills what
either side has filled, and nothing else (`filled_mergeFilled`).
-/
namespace Gleaner.Entity

/-- A field that is there and holds no zero value. -/
def Filled (e : Entity) (name : String) : Prop := ∃ v, e.get? name = some v ∧ v.isZero = false

theorem not_filled_empty (name : String) : ¬ Filled OrderedMap.empty name := by
  rintro ⟨v, hv, _⟩
  simp [OrderedMap.empty, OrderedMap.get?] at hv

theorem filled_iff {e : Entity} {name : String} :
    e.Filled name ↔ (e.get? name).all FieldValue.isZero = false := by
  unfold Filled
  cases e.get? name with
  | none => simp
  | some v => simp

instance (e : Entity) (name : String) : Decidable (e.Filled name) :=
  decidable_of_iff _ filled_iff.symm

/-- What a field holds after a value was found for it. -/
def filling (old : Option FieldValue) (new : FieldValue) : FieldValue :=
  match old with
  | some v => if new.isZero && !v.isZero then v else new
  | none => new

theorem get?_fill (e : Entity) (name k : String) (value : FieldValue) :
    (e.fill name value).get? k =
      if k = name then some (filling (e.get? k) value) else e.get? k := by
  unfold fill filling
  by_cases hk : k = name
  · subst k
    cases he : e.get? name with
    | none => simp [OrderedMap.get?_insert]
    | some old =>
      by_cases hz : (value.isZero && !old.isZero) = true
      · simp [hz, he]
      · simp [hz, OrderedMap.get?_insert]
  · cases e.get? name with
    | none => simp [OrderedMap.get?_insert, hk]
    | some old =>
      by_cases hz : (value.isZero && !old.isZero) = true
      · simp [hz, hk]
      · simp [hz, OrderedMap.get?_insert, hk]

theorem get?_mergeFilled (e other : Entity) (k : String) :
    (e.mergeFilled other).get? k =
      match other.get? k with
      | some value => some (filling (e.get? k) value)
      | none => e.get? k := by
  obtain ⟨entries, hn⟩ := other
  simp only [mergeFilled, OrderedMap.get?]
  induction entries generalizing e with
  | nil => rfl
  | cons x entries ih =>
    obtain ⟨hx, hrest⟩ := List.nodup_cons.mp hn
    rw [List.foldl_cons, ih (e.fill x.1 x.2) hrest, Keyed.lookup_cons_eq]
    by_cases hk : k = x.1
    · -- No later entry has this key.
      have hnone : entries.lookup k = none := Keyed.lookup_eq_none.mpr (hk ▸ hx)
      have hfill := get?_fill e x.1 k x.2
      rw [if_pos hk] at hfill
      simp only [hnone, if_pos hk]
      exact hfill
    · have hfill := get?_fill e x.1 k x.2
      rw [if_neg hk] at hfill
      simp only [OrderedMap.get?] at hfill
      simp only [if_neg hk, hfill]

theorem filling_isZero (old : Option FieldValue) (new : FieldValue) :
    (filling old new).isZero = (new.isZero && old.all FieldValue.isZero) := by
  unfold filling
  cases old with
  | none => simp
  | some v => cases hn : new.isZero <;> cases hv : v.isZero <;> simp [hn, hv]

/-- Merging loses nothing that is filled, and fills nothing that neither side has. -/
theorem filled_mergeFilled {e other : Entity} {name : String} :
    (e.mergeFilled other).Filled name ↔ e.Filled name ∨ other.Filled name := by
  rw [filled_iff, filled_iff, filled_iff, get?_mergeFilled]
  cases other.get? name with
  | none => simp
  | some value =>
    rw [Option.all_some, filling_isZero, Bool.and_eq_false_iff, Option.all_some, or_comm]

theorem mem_keys_mergeFilled {e other : Entity} {name : String} :
    name ∈ (e.mergeFilled other).keys ↔ name ∈ e.keys ∨ name ∈ other.keys := by
  simp only [OrderedMap.mem_keys_iff, get?_mergeFilled]
  cases other.get? name <;> simp

/-- Merging does not touch what the other entity lacks. -/
theorem get?_mergeFilled_of_not_mem {e other : Entity} {name : String} (h : name ∉ other.keys) :
    (e.mergeFilled other).get? name = e.get? name := by
  rw [get?_mergeFilled]
  cases ho : other.get? name with
  | none => rfl
  | some v => exact absurd (OrderedMap.mem_keys_iff.mpr ⟨v, ho⟩) h

end Gleaner.Entity

namespace Gleaner.Page

theorem entries_entity (source : Source) (group : FieldGroup) (only : Option (List String))
    (filters : FilterRegistry) (links : String → String) :
    (entity source group only filters links).entries =
      (group.entries.filter fun f => only.all fun names => names.contains f.1).map
        fun f => (f.1, field source filters links f.1 f.2) := by
  rw [entity]
  apply OrderedMap.entries_ofList
  refine List.Nodup.sublist ?_ group.nodup
  rw [Keyed.keys, List.map_map]
  exact List.filter_sublist.map Prod.fst

/-- An entity has the fields of its group that are asked for, found or not. -/
theorem mem_keys_entity {source : Source} {group : FieldGroup} {only : Option (List String)}
    {filters : FilterRegistry} {links : String → String} {name : String} :
    name ∈ (entity source group only filters links).keys ↔
      name ∈ group.keys ∧ only.all (fun names => names.contains name) = true := by
  rw [OrderedMap.keys, entries_entity]
  simp only [Keyed.keys, List.map_map, List.mem_map, List.mem_filter, OrderedMap.keys]
  constructor
  · rintro ⟨f, ⟨hf, honly⟩, rfl⟩
    exact ⟨⟨f, hf, rfl⟩, honly⟩
  · rintro ⟨⟨f, hf, rfl⟩, honly⟩
    exact ⟨f, ⟨hf, honly⟩, rfl⟩

end Gleaner.Page
