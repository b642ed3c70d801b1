import Gleaner.Proofs.Json.Merge

/-!
Merging seen along paths of keys. What an override has at a path is merged over what the base has
there (`atKeys?_merge`), and below a path where it has nothing all is the base's
(`atKeys?_merge_of_ended`).
-/
namespace Gleaner.Json

/-- The value at a path of keys, down through objects. -/
def atKeys? (j : Json) : List String → Option Json
  | [] => some j
  | k :: path => (j.get? k).bind fun i => i.atKeys? path

/-- What takes the place of anything it is merged over: all but objects and `null`. -/
def Replaces : Json → Prop
  | .null | .obj _ => False
  | _ => True

/-- Whether nothing but objects is passed on the way to the end of a path. -/
def ObjectsAbove (j : Json) (path : List String) : Prop :=
  ∀ above k below, path = above ++ k :: below → ∃ members, j.atKeys? above = some (.obj members)

/-- Whether a path can be walked down to its end: nothing that takes the place of the base is passed
on the way. -/
def UnreplacedAbove (o : Json) (path : List String) : Prop :=
  ∀ above k below v, path = above ++ k :: below → o.atKeys? above = some v → ¬ v.Replaces

@[simp] theorem atKeys?_nil (j : Json) : j.atKeys? [] = some j := rfl

@[simp] theorem atKeys?_obj_cons (members : List (String × Json)) (k : String)
    (path : List String) :
    (obj members).atKeys? (k :: path) = (members.lookup k).bind fun i => i.atKeys? path := rfl

theorem atKeys?_cons_eq_some {j v : Json} {k : String} {path : List String} :
    j.atKeys? (k :: path) = some v ↔
      ∃ members i, j = .obj members ∧ members.lookup k = some i ∧ i.atKeys? path = some v := by
  cases j with
  | obj members => simp [Option.bind_eq_some_iff]
  | _ => simp [atKeys?, get?]

theorem atKeys?_append (j : Json) (path rest : List String) :
    j.atKeys? (path ++ rest) = (j.atKeys? path).bind fun i => i.atKeys? rest := by
  induction path generalizing j with
  | nil => rfl
  | cons k path ih =>
    cases hk : j.get? k with
    | none => simp [atKeys?, hk]
    | some i => simp [atKeys?, hk, ih]

theorem exists_obj_of_atKeys? {j : Json} {path : List String} {below : List (String × Json)}
    (h : j.atKeys? path = some (.obj below)) : ∃ members, j = .obj members := by
  cases path with
  | nil => exact ⟨below, Option.some.inj h⟩
  | cons k path =>
    obtain ⟨members, _, hj, _⟩ := atKeys?_cons_eq_some.mp h
    exact ⟨members, hj⟩

theorem ne_null_of_atKeys? {j v : Json} {path : List String} (h : j.atKeys? path = some v)
    (hv : v ≠ .null) : j ≠ .null := by
  rintro rfl
  cases path with
  | nil => exact hv (Option.some.inj h).symm
  | cons k path => simp [atKeys?, get?] at h

theorem replaces_or {j : Json} : j.Replaces ∨ j = .null ∨ ∃ members, j = .obj members := by
  cases j <;> simp [Replaces]

theorem Replaces.ne_null {j : Json} (h : j.Replaces) : j ≠ .null := by
  rintro rfl
  exact h

theorem Replaces.atKeys?_cons {j : Json} (h : j.Replaces) (k : String) (path : List String) :
    j.atKeys? (k :: path) = none := by
  cases j with
  | null => exact h.elim
  | obj members => exact h.elim
  | _ => rfl

theorem merge_of_replaces {o : Json} (h : o.Replaces) (base : Json) : base.merge o = o := by
  cases o with
  | null => exact h.elim
  | obj members => exact h.elim
  | _ => simp

theorem mergeAt_of_replaces {o : Json} (h : o.Replaces) (base : Option Json) :
    mergeAt base (some o) = some o := by
  cases base with
  | none => exact mergeAt_none_some h.ne_null
  | some base => rw [mergeAt_some_some, merge_of_replaces h]

/-! ### On the way down -/

theorem objectsAbove_nil (j : Json) : j.ObjectsAbove [] := by
  intro above k below h
  simp at h

theorem objectsAbove_cons {j : Json} {k : String} {path : List String} :
    j.ObjectsAbove (k :: path) ↔
      ∃ members, j = .obj members ∧
        (path = [] ∨ ∃ i, members.lookup k = some i ∧ i.ObjectsAbove path) := by
  constructor
  · intro h
    obtain ⟨members, hj⟩ := h [] k path rfl
    cases Option.some.inj hj
    refine ⟨members, rfl, ?_⟩
    cases path with
    | nil => exact Or.inl rfl
    | cons k' path =>
      obtain ⟨ms, hms⟩ := h [k] k' path rfl
      obtain ⟨_, i, hm, hi, _⟩ := atKeys?_cons_eq_some.mp hms
      cases hm
      refine Or.inr ⟨i, hi, fun above key below he => ?_⟩
      obtain ⟨ms, hms⟩ := h (k :: above) key below (by rw [he, List.cons_append])
      rw [atKeys?_obj_cons, hi] at hms
      exact ⟨ms, hms⟩
  · rintro ⟨members, rfl, h⟩ above key below he
    cases above with
    | nil => exact ⟨members, rfl⟩
    | cons a above =>
      obtain ⟨rfl, rfl⟩ := List.cons.inj he
      rcases h with h | ⟨i, hi, hbelow⟩
      · simp at h
      · obtain ⟨ms, hms⟩ := hbelow above key below rfl
        exact ⟨ms, by rw [atKeys?_obj_cons, hi]; exact hms⟩

theorem objectsAbove_of_atKeys? {j v : Json} {path : List String} (h : j.atKeys? path = some v) :
    j.ObjectsAbove path := by
  induction path generalizing j with
  | nil => exact objectsAbove_nil j
  | cons k path ih =>
    obtain ⟨members, i, rfl, hi, hv⟩ := atKeys?_cons_eq_some.mp h
    exact objectsAbove_cons.mpr ⟨members, rfl, Or.inr ⟨i, hi, ih hv⟩⟩

theorem unreplacedAbove_of_objectsAbove {j : Json} {path : List String} (h : j.ObjectsAbove path) :
    j.UnreplacedAbove path := by
  intro above k below v he hv
  obtain ⟨members, hm⟩ := h above k below he
  cases Option.some.inj (hv.symm.trans hm)
  exact id

theorem unreplacedAbove_of_lookup {members : List (String × Json)} {k : String}
    {path : List String} (h : (obj members).UnreplacedAbove (k :: path)) {i : Json}
    (hi : members.lookup k = some i) : i.UnreplacedAbove path := by
  intro above key below v he hv
  refine h (k :: above) key below v (by rw [he, List.cons_append]) ?_
  rw [atKeys?_obj_cons, hi]
  exact hv

theorem wellKeyed_atKeys? {j v : Json} {path : List String} (hj : j.WellKeyed)
    (h : j.atKeys? path = some v) : v.WellKeyed := by
  induction path generalizing j with
  | nil =>
    cases Option.some.inj h
    exact hj
  | cons k path ih =>
    obtain ⟨members, i, rfl, hi, hv⟩ := atKeys?_cons_eq_some.mp h
    exact ih (wellKeyed_of_lookup hj hi) hv

/-! ### Merging -/

theorem atKeys?_merge_cons {own members : List (String × Json)}
    (hn : (Keyed.keys members).Nodup) (k : String) (path : List String) :
    ((obj own).merge (.obj members)).atKeys? (k :: path) =
      (mergeAt (own.lookup k) (members.lookup k)).bind fun i => i.atKeys? path := by
  rw [merge_obj_obj, atKeys?_obj_cons, lookup_mergeMembers hn]

/-- What an override has at a path is merged over what the base has there, which may be nothing. -/
theorem atKeys?_merge {base o v : Json} (ho : o.WellKeyed) {path : List String}
    (h : o.atKeys? path = some v) (hv : v ≠ .null) :
    (base.merge o).atKeys? path = mergeAt (base.atKeys? path) (some v) := by
  induction path generalizing base o with
  | nil =>
    cases Option.some.inj h
    rfl
  | cons k path ih =>
    obtain ⟨members, new, rfl, hnew, hbelow⟩ := atKeys?_cons_eq_some.mp h
    have hnull := ne_null_of_atKeys? hbelow hv
    -- Where the base has no member to go into, the override's is taken over with all below it.
    rcases obj_or base with ⟨own, rfl⟩ | hbase
    · rw [atKeys?_merge_cons (wellKeyed_obj.mp ho).1, atKeys?_obj_cons, hnew]
      cases own.lookup k with
      | none =>
        rw [mergeAt_none_some hnull, Option.bind_none, mergeAt_none_some hv]
        exact hbelow
      | some old => exact ih (wellKeyed_of_lookup ho hnew) hbelow
    · have hnone : base.atKeys? (k :: path) = none := by
        rw [Option.eq_none_iff_forall_ne_some]
        intro old hold
        obtain ⟨own, _, hown, _⟩ := atKeys?_cons_eq_some.mp hold
        exact hbase own hown
      rw [merge_obj_of_not_obj hbase, hnone, mergeAt_none_some hv, h]

/-- Where the override has nothing, all that stands at a path or below it is the base's. -/
theorem atKeys?_merge_of_ended {base o : Json} (ho : o.WellKeyed) {path : List String}
    (hbase : base.ObjectsAbove path) (hover : o.UnreplacedAbove path)
    (hend : o.atKeys? path = none ∨ o.atKeys? path = some .null) (rest : List String) :
    (base.merge o).atKeys? (path ++ rest) = base.atKeys? (path ++ rest) := by
  induction path generalizing base o with
  | nil =>
    obtain rfl : o = .null := by simpa using hend
    rw [merge_null]
  | cons k path ih =>
    obtain ⟨own, rfl, hown⟩ := objectsAbove_cons.mp hbase
    rcases replaces_or (j := o) with hrep | rfl | ⟨members, rfl⟩
    · exact absurd hrep (hover [] k path o rfl rfl)
    · rw [merge_null]
    rw [List.cons_append, atKeys?_merge_cons (wellKeyed_obj.mp ho).1, atKeys?_obj_cons]
    cases hnew : members.lookup k with
    | none => rw [mergeAt_none]
    | some new =>
      rw [atKeys?_obj_cons, hnew, Option.bind_some] at hend
      have hbelow := unreplacedAbove_of_lookup hover hnew
      cases hold : own.lookup k with
      | some old =>
        refine ih (wellKeyed_of_lookup ho hnew) ?_ hbelow hend
        rcases hown with rfl | ⟨i, hi, hown⟩
        · exact objectsAbove_nil old
        · cases Option.some.inj (hold.symm.trans hi)
          exact hown
      | none =>
        -- The base ends here, and so does the path: what the override has is `null`.
        rcases hown with rfl | ⟨i, hi, _⟩
        · obtain rfl : new = .null := by simpa using hend
          rw [mergeAt_none_null]
        · simp [hold] at hi

/-- Merging is no shallow replacement. What replaces the base at a path stands there in the end,
with nothing below it. Where the override runs out without that, by `null` or by a missing member,
and the base has objects down to there, the base stays as it is. `UnreplacedAbove` is what it takes
to walk down the override that far: where a value has replaced the base on the way, the override is
absent below it as well, and yet the base is gone there. And the keys of two objects are those of
the base, then the override's new ones that are not `null`. -/
theorem merge_along_paths (base o : Json) (ho : o.WellKeyed) :
    (∀ path v, o.atKeys? path = some v → v.Replaces →
      (base.merge o).atKeys? path = some v ∧
        ∀ k rest, (base.merge o).atKeys? (path ++ k :: rest) = none) ∧
    (∀ path rest, o.UnreplacedAbove path →
      (o.atKeys? path = none ∨ o.atKeys? path = some .null) → base.ObjectsAbove path →
      (base.merge o).atKeys? (path ++ rest) = base.atKeys? (path ++ rest)) ∧
    ∀ path own members, base.atKeys? path = some (.obj own) →
      o.atKeys? path = some (.obj members) →
      ∃ merged, (base.merge o).atKeys? path = some (.obj merged) ∧
        Keyed.keys merged = Keyed.keys own ++ Keyed.keys (members.filter (isNew own)) := by
  refine ⟨?_, ?_, ?_⟩
  · intro path v h hv
    have hmerged : (base.merge o).atKeys? path = some v := by
      rw [atKeys?_merge ho h hv.ne_null, mergeAt_of_replaces hv]
    refine ⟨hmerged, fun k rest => ?_⟩
    rw [atKeys?_append, hmerged]
    exact hv.atKeys?_cons k rest
  · intro path rest hover hend hbase
    exact atKeys?_merge_of_ended ho hbase hover hend rest
  · intro path own members hown hmembers
    have hkeys := (wellKeyed_obj.mp (wellKeyed_atKeys? ho hmembers)).1
    refine ⟨mergeMembers own members, ?_, keys_mergeMembers hkeys⟩
    rw [atKeys?_merge ho hmembers (by simp), hown, mergeAt_some_some, merge_obj_obj]

/-- Below a value that has replaced an object, the override is absent and nothing of the base is
left. -/
example :
    let base := obj [("a", obj [("b", .bool true)])]
    let o := obj [("a", .bool false)]
    o.atKeys? ["a", "b"] = none ∧ base.atKeys? ["a", "b"] = some (.bool true) ∧
      (base.merge o).atKeys? ["a", "b"] = none :=
  ⟨rfl, rfl, rfl⟩

theorem merge_along_paths_nested :
    (obj [("a", obj [("x", .null), ("z", .arr [])])]).WellKeyed ∧
      ((obj [("a", obj [("x", .str "kept"), ("y", .null)])]).merge
        (obj [("a", obj [("x", .null), ("z", .arr [])])])).atKeys? ["a", "x"] =
          some (.str "kept") := by
  have ho : (obj [("a", obj [("x", .null), ("z", .arr [])])]).WellKeyed := by
    simp [WellKeyed, WellKeyedMembers, WellKeyedItems]
  refine ⟨ho, (merge_along_paths _ _ ho).2.1 ["a", "x"] [] ?_ (Or.inr rfl) ?_⟩
  · exact unreplacedAbove_of_objectsAbove (objectsAbove_of_atKeys? (v := .null) rfl)
  · exact objectsAbove_of_atKeys? (v := .str "kept") rfl

end Gleaner.Json
