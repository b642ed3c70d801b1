import Gleaner.Keyed

/-!
Lists of key-value pairs seen through their keys and lookups: pairs without a repeated key are
determined by the two (`eq_of_lookup`), and an ordered map built of them is the list itself.
-/
namespace Gleaner

variable {α β : Type}

namespace Keyed

@[simp] theorem keys_nil : keys ([] : List (String × α)) = [] := rfl

@[simp] theorem keys_cons (x : String × α) (xs : List (String × α)) :
    keys (x :: xs) = x.1 :: keys xs := rfl

@[simp] theorem keys_append (xs ys : List (String × α)) : keys (xs ++ ys) = keys xs ++ keys ys := by
  simp [keys]

theorem lookup_cons_eq (k : String) (x : String × α) (xs : List (String × α)) :
    (x :: xs).lookup k = if k = x.1 then some x.2 else xs.lookup k := by
  obtain ⟨k', v⟩ := x
  rw [List.lookup_cons]
  by_cases h : k = k'
  · simp [h]
  · simp [h, beq_eq_false_iff_ne.mpr h]

theorem mem_keys_of_mem {x : String × α} {xs : List (String × α)} (h : x ∈ xs) : x.1 ∈ keys xs :=
  List.mem_map_of_mem h

theorem lookup_eq_none {k : String} {xs : List (String × α)} :
    xs.lookup k = none ↔ k ∉ keys xs := by
  rw [List.lookup_eq_none_iff]
  constructor
  · intro h hk
    obtain ⟨x, hx, rfl⟩ := List.mem_map.mp hk
    simpa using h x hx
  · intro h x hx
    have hne : k ≠ x.1 := by
      rintro rfl
      exact h (mem_keys_of_mem hx)
    simpa using hne

theorem mem_of_lookup {k : String} {v : α} {xs : List (String × α)} (h : xs.lookup k = some v) :
    (k, v) ∈ xs := by
  obtain ⟨before, after, rfl, _⟩ := List.lookup_eq_some_iff.mp h
  simp

theorem mem_keys_of_lookup {k : String} {v : α} {xs : List (String × α)}
    (h : xs.lookup k = some v) : k ∈ keys xs :=
  mem_keys_of_mem (mem_of_lookup h)

theorem exists_lookup {k : String} {xs : List (String × α)} (h : k ∈ keys xs) :
    ∃ v, xs.lookup k = some v := by
  cases hv : xs.lookup k with
  | none => exact absurd h (lookup_eq_none.mp hv)
  | some v => exact ⟨v, rfl⟩

theorem isSome_lookup {k : String} {xs : List (String × α)} :
    (xs.lookup k).isSome ↔ k ∈ keys xs := by
  constructor
  · intro h
    obtain ⟨v, hv⟩ := Option.isSome_iff_exists.mp h
    exact mem_keys_of_lookup hv
  · intro h
    obtain ⟨v, hv⟩ := exists_lookup h
    simp [hv]

theorem lookup_of_mem {k : String} {v : α} {xs : List (String × α)} (hn : (keys xs).Nodup)
    (h : (k, v) ∈ xs) : xs.lookup k = some v := by
  induction xs with
  | nil => simp at h
  | cons x xs ih =>
    obtain ⟨hx, hn⟩ := List.nodup_cons.mp hn
    rcases List.mem_cons.mp h with rfl | h
    · exact List.lookup_cons_self
    · have hne : k ≠ x.1 := by
        intro he
        exact hx (he ▸ mem_keys_of_mem h)
      rw [lookup_cons_eq, if_neg hne]
      exact ih hn h

theorem eq_of_lookup {xs ys : List (String × α)} (hk : keys xs = keys ys) (hn : (keys xs).Nodup)
    (h : ∀ k, xs.lookup k = ys.lookup k) : xs = ys := by
  induction xs generalizing ys with
  | nil => exact (List.map_eq_nil_iff.mp hk.symm).symm
  | cons x xs ih =>
    cases ys with
    | nil => simp at hk
    | cons y ys =>
      obtain ⟨hxy, hk⟩ := List.cons.inj hk
      obtain ⟨hx, hn⟩ := List.nodup_cons.mp hn
      have hv : x.2 = y.2 := by simpa [lookup_cons_eq, hxy] using h x.1
      rw [Prod.ext hxy hv, ih hk hn]
      intro k
      by_cases he : k = x.1
      · subst he
        have hy : x.1 ∉ keys ys := by
          rw [keys, ← hk]
          exact hx
        rw [lookup_eq_none.mpr hx, lookup_eq_none.mpr hy]
      · simpa [lookup_cons_eq, he, ← hxy] using h k

@[simp] theorem keys_map (f : α → β) (xs : List (String × α)) :
    keys (xs.map fun x => (x.1, f x.2)) = keys xs := by
  simp [keys, Function.comp_def]

theorem lookup_map (f : α → β) (k : String) (xs : List (String × α)) :
    (xs.map fun x => (x.1, f x.2)).lookup k = (xs.lookup k).map f := by
  induction xs with
  | nil => rfl
  | cons x xs ih =>
    rw [List.map_cons, lookup_cons_eq, lookup_cons_eq, ih]
    split
    · rfl
    · rfl

theorem lookup_filter_keys (p : String → Bool) {k : String} (hk : p k = true)
    (xs : List (String × α)) : (xs.filter fun x => p x.1).lookup k = xs.lookup k := by
  induction xs with
  | nil => rfl
  | cons x xs ih =>
    by_cases hp : p x.1 = true
    · simp only [List.filter_cons, hp, ↓reduceIte, lookup_cons_eq, ih]
    · have hne : k ≠ x.1 := by
        rintro rfl
        exact hp hk
      simpa [List.filter_cons, hp, lookup_cons_eq, hne] using ih

theorem lookup_filter_values (p : α → Bool) (k : String) {xs : List (String × α)}
    (h : (keys xs).Nodup) : (xs.filter fun x => p x.2).lookup k = (xs.lookup k).filter p := by
  induction xs with
  | nil => rfl
  | cons x xs ih =>
    obtain ⟨hx, hrest⟩ := List.nodup_cons.mp h
    rw [lookup_cons_eq, List.filter_cons]
    by_cases hk : k = x.1
    · have hnone : xs.lookup k = none := lookup_eq_none.mpr (hk ▸ hx)
      rw [if_pos hk]
      split
      next hp => rw [lookup_cons_eq, if_pos hk, Option.filter_some_pos hp]
      next hp =>
        have hp : p x.2 = false := by simpa using hp
        rw [ih hrest, hnone, Option.filter_some_neg hp, Option.filter_none]
    · rw [if_neg hk, ← ih hrest]
      split
      next => rw [lookup_cons_eq, if_neg hk]
      next => rfl

theorem put_of_not_mem {key : String} (value : α) {xs : List (String × α)} (h : key ∉ keys xs) :
    put key value xs = xs ++ [(key, value)] := by
  induction xs with
  | nil => rfl
  | cons x xs ih =>
    simp only [keys_cons, List.mem_cons, not_or] at h
    simp [put, Ne.symm h.1, ih h.2]

theorem put_of_lookup {key : String} {value : α} {xs : List (String × α)}
    (h : xs.lookup key = some value) : put key value xs = xs := by
  induction xs with
  | nil => simp at h
  | cons x xs ih =>
    rw [lookup_cons_eq] at h
    by_cases he : key = x.1
    · rw [if_pos he] at h
      cases Option.some.inj h
      simp [put, he]
    · rw [if_neg he] at h
      simp [put, Ne.symm he, ih h]

theorem foldl_put (acc : List (String × α)) {xs : List (String × α)}
    (h : (keys (acc ++ xs)).Nodup) :
    xs.foldl (fun acc x => put x.1 x.2 acc) acc = acc ++ xs := by
  induction xs generalizing acc with
  | nil => simp
  | cons x xs ih =>
    have hx : x.1 ∉ keys acc := by
      intro hm
      rw [keys_append, List.nodup_append] at h
      exact h.2.2 x.1 hm x.1 (by simp) rfl
    rw [List.foldl_cons, put_of_not_mem x.2 hx, ih _ (by simpa using h)]
    simp

theorem nodup_foldl_put {acc xs : List (String × α)} (h : (keys acc).Nodup) :
    (keys (xs.foldl (fun acc x => put x.1 x.2 acc) acc)).Nodup := by
  induction xs generalizing acc with
  | nil => exact h
  | cons x xs ih => exact ih (nodup_put h)

/-- What `put` leaves in a list was there before or was put there. -/
theorem mem_put {key : String} {value : α} {x : String × α} {xs : List (String × α)}
    (h : x ∈ put key value xs) : x = (key, value) ∨ x ∈ xs := by
  induction xs with
  | nil => exact Or.inl (List.mem_singleton.mp h)
  | cons y xs ih =>
    obtain ⟨k, v⟩ := y
    unfold put at h
    split at h
    next he =>
      rcases List.mem_cons.mp h with rfl | h
      · exact Or.inl (by rw [he])
      · exact Or.inr (List.mem_cons_of_mem _ h)
    next =>
      rcases List.mem_cons.mp h with rfl | h
      · exact Or.inr List.mem_cons_self
      · exact (ih h).imp_right (List.mem_cons_of_mem _)

theorem mem_foldl_put {acc xs : List (String × α)} {x : String × α}
    (h : x ∈ xs.foldl (fun acc x => put x.1 x.2 acc) acc) : x ∈ acc ∨ x ∈ xs := by
  induction xs generalizing acc with
  | nil => exact Or.inl h
  | cons y xs ih =>
    rcases ih h with h | h
    · rcases mem_put h with rfl | h
      · exact Or.inr List.mem_cons_self
      · exact Or.inl h
    · exact Or.inr (List.mem_cons_of_mem _ h)

end Keyed

namespace OrderedMap

theorem entries_insertAll (m : OrderedMap α) (xs : List (String × α)) :
    (m.insertAll xs).entries = xs.foldl (fun acc x => Keyed.put x.1 x.2 acc) m.entries := by
  induction xs generalizing m with
  | nil => rfl
  | cons x xs ih => exact ih (m.insert x.1 x.2)

theorem entries_ofList {xs : List (String × α)} (h : (Keyed.keys xs).Nodup) :
    (ofList xs).entries = xs := by
  rw [ofList, entries_insertAll]
  exact Keyed.foldl_put [] h

theorem ofList_entries (m : OrderedMap α) : ofList m.entries = m :=
  ext (entries_ofList m.nodup)

theorem mem_keys_iff {m : OrderedMap α} {k : String} : k ∈ m.keys ↔ ∃ v, m.get? k = some v :=
  ⟨Keyed.exists_lookup, fun ⟨_, h⟩ => Keyed.mem_keys_of_lookup h⟩

end OrderedMap

end Gleaner
