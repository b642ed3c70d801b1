import Gleaner.Json.Parser
import Gleaner.Proofs.Keyed

/-!
Documents that repeat no key, and `dedupe`, which makes every document one of them and leaves those
that are as they are.
-/
namespace Gleaner.Json

/-- Induction over a document: below an array or object, all that it holds. -/
@[elab_as_elim]
theorem inductionOn {P : Json → Prop} (j : Json) (null : P .null) (bool : ∀ b, P (.bool b))
    (num : ∀ n, P (.num n)) (str : ∀ s, P (.str s))
    (arr : ∀ items, (∀ i ∈ items, P i) → P (.arr items))
    (obj : ∀ members, (∀ m ∈ members, P m.2) → P (.obj members)) : P j :=
  match j with
  | .null => null
  | .bool b => bool b
  | .num n => num n
  | .str s => str s
  | .arr items => arr items fun i _ => inductionOn i null bool num str arr obj
  | .obj members => obj members fun m _ => inductionOn m.2 null bool num str arr obj
termination_by sizeOf j
decreasing_by
  · have := List.sizeOf_lt_of_mem (by assumption : i ∈ items)
    simp only [Json.arr.sizeOf_spec]
    omega
  · have hm := List.sizeOf_lt_of_mem (by assumption : m ∈ members)
    obtain ⟨k, v⟩ := m
    simp only [Prod.mk.sizeOf_spec] at hm
    simp only [Json.obj.sizeOf_spec]
    omega

theorem wellKeyedItems_iff {items : List Json} :
    WellKeyedItems items ↔ ∀ i ∈ items, i.WellKeyed := by
  induction items with
  | nil => simp [WellKeyedItems]
  | cons i items ih => simp [WellKeyedItems, ih]

theorem wellKeyedMembers_iff {members : List (String × Json)} :
    WellKeyedMembers members ↔ ∀ m ∈ members, m.2.WellKeyed := by
  induction members with
  | nil => simp [WellKeyedMembers]
  | cons m members ih =>
    obtain ⟨k, j⟩ := m
    simp [WellKeyedMembers, ih]

theorem wellKeyed_arr {items : List Json} : (arr items).WellKeyed ↔ ∀ i ∈ items, i.WellKeyed := by
  rw [WellKeyed, wellKeyedItems_iff]

theorem wellKeyed_obj {members : List (String × Json)} :
    (obj members).WellKeyed ↔
      (Keyed.keys members).Nodup ∧ ∀ m ∈ members, m.2.WellKeyed := by
  rw [WellKeyed, wellKeyedMembers_iff, Keyed.keys]

theorem wellKeyed_of_lookup {members : List (String × Json)} (h : (obj members).WellKeyed)
    {k : String} {j : Json} (hk : members.lookup k = some j) : j.WellKeyed :=
  (wellKeyed_obj.mp h).2 (k, j) (Keyed.mem_of_lookup hk)

theorem dedupeItems_eq (items : List Json) : dedupeItems items = items.map dedupe := by
  induction items with
  | nil => rfl
  | cons i items ih => simp [dedupeItems, ih]

theorem dedupeMembers_eq (members : List (String × Json)) :
    dedupeMembers members = members.map fun m => (m.1, dedupe m.2) := by
  induction members with
  | nil => rfl
  | cons m members ih =>
    obtain ⟨k, j⟩ := m
    simp [dedupeMembers, ih]

theorem wellKeyed_dedupe (j : Json) : j.dedupe.WellKeyed := by
  induction j using inductionOn with
  | null => simp [dedupe, WellKeyed]
  | bool b => simp [dedupe, WellKeyed]
  | num n => simp [dedupe, WellKeyed]
  | str s => simp [dedupe, WellKeyed]
  | arr items ih =>
    rw [dedupe, wellKeyed_arr, dedupeItems_eq]
    intro i hi
    obtain ⟨item, hitem, rfl⟩ := List.mem_map.mp hi
    exact ih item hitem
  | obj members ih =>
    rw [dedupe, wellKeyed_obj, dedupeMembers_eq]
    refine ⟨Keyed.nodup_foldl_put List.nodup_nil, ?_⟩
    intro m hm
    rcases Keyed.mem_foldl_put hm with hm | hm
    · simp at hm
    · obtain ⟨member, hmember, rfl⟩ := List.mem_map.mp hm
      exact ih member hmember

/-- Documents that were read repeat no key. -/
theorem wellKeyed_parse? {text : String} {j : Json} (h : parse? text = some j) : j.WellKeyed := by
  obtain ⟨raw, _, rfl⟩ := Option.map_eq_some_iff.mp h
  exact wellKeyed_dedupe raw

theorem dedupe_eq_self {j : Json} (h : j.WellKeyed) : j.dedupe = j := by
  induction j using inductionOn with
  | null => simp [dedupe]
  | bool b => simp [dedupe]
  | num n => simp [dedupe]
  | str s => simp [dedupe]
  | arr items ih =>
    rw [wellKeyed_arr] at h
    rw [dedupe, dedupeItems_eq, List.map_congr_left fun i hi => ih i hi (h i hi), List.map_id']
  | obj members ih =>
    rw [wellKeyed_obj] at h
    have hm : dedupeMembers members = members := by
      rw [dedupeMembers_eq]
      refine (List.map_congr_left fun m hm => ?_).trans (List.map_id' members)
      rw [ih m hm (h.2 m hm)]
    rw [dedupe, hm, Keyed.foldl_put [] h.1, List.nil_append]

end Gleaner.Json
