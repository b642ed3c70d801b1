import Gleaner.Json.Record
import Gleaner.Proofs.Json.Merge

/-!
Readers and writers of documents that survive merging. Where a value is read from a document over
which overrides were merged, it is read again when it is written and the same overrides are merged
over that (`Stable`). Arrays, maps and records are stable when their parts are.
-/
namespace Gleaner.Json

variable {α ρ : Type}

/-- What is written reads back, and what is read is written without repeating a key. -/
structure Faithful (read? : Json → Option α) (write : α → Json) : Prop where
  read_write : ∀ v, (write v).WellKeyed → read? (write v) = some v
  wellKeyed : ∀ j v, read? j = some v → (write v).WellKeyed

/-- The overrides themselves, or something written with the overrides merged over it. -/
def Over (write : α → Json) (o j : Json) : Prop :=
  j = o ∨ ∃ u, (write u).WellKeyed ∧ j = (write u).merge o

structure Stable (read? : Json → Option α) (write : α → Json) : Prop
    extends Faithful read? write where
  stable : ∀ o j v, o.WellKeyed → Over write o j → read? j = some v →
    read? ((write v).merge o) = some v

theorem Faithful.read_write_of_read {read? : Json → Option α} {write : α → Json}
    (h : Faithful read? write) {j : Json} {v : α} (hj : read? j = some v) :
    read? (write v) = some v :=
  h.read_write v (h.wellKeyed j v hj)

/-- Overrides replace what is no object, so that only `null` leaves it to be read back. -/
theorem Faithful.stable {read? : Json → Option α} {write : α → Json} (h : Faithful read? write)
    (hw : ∀ v members, write v ≠ .obj members) : Stable read? write where
  toFaithful := h
  stable := by
    intro o j v _ hj hr
    by_cases ho : o = .null
    · rw [ho, merge_null]
      exact h.read_write_of_read hr
    · rw [merge_of_not_obj (hw v) ho]
      rcases hj with rfl | ⟨u, _, rfl⟩
      · exact hr
      · rwa [merge_of_not_obj (hw u) ho] at hr

theorem stable_str : Stable str? .str :=
  Faithful.stable ⟨fun _ _ => rfl, fun _ _ _ => trivial⟩ (by simp)

theorem stable_anyValue : Stable anyValue? id where
  read_write v hv := congrArg some (dedupe_eq_self hv)
  wellKeyed j v h := by
    cases Option.some.inj h
    exact wellKeyed_dedupe j
  stable := by
    intro o j v ho hj hr
    have hjw : j.WellKeyed := by
      rcases hj with rfl | ⟨u, hu, rfl⟩
      · exact ho
      · exact wellKeyed_merge hu ho
    rw [anyValue?, dedupe_eq_self hjw] at hr
    cases Option.some.inj hr
    have hagain : j.merge o = j := by
      rcases hj with rfl | ⟨u, hu, rfl⟩
      · exact merge_self ho
      · exact merge_merge_self hu ho
    rw [id, hagain, anyValue?, dedupe_eq_self hjw]

/-! ### Arrays -/

theorem Faithful.mapM_write {read? : Json → Option α} {write : α → Json} (h : Faithful read? write)
    {vs : List α} (hw : ∀ v ∈ vs, (write v).WellKeyed) : (vs.map write).mapM read? = some vs := by
  induction vs with
  | nil => rfl
  | cons v vs ih =>
    rw [List.map_cons, List.mapM_cons, h.read_write v (hw v (by simp)),
      ih fun v hv => hw v (by simp [hv])]
    rfl

theorem exists_of_mapM {β : Type} {f : α → Option β} {xs : List α} {ys : List β}
    (h : xs.mapM f = some ys) : ∀ y ∈ ys, ∃ x ∈ xs, f x = some y := by
  induction xs generalizing ys with
  | nil =>
    cases Option.some.inj h
    simp
  | cons x xs ih =>
    rw [List.mapM_cons] at h
    obtain ⟨y, hy, h⟩ := Option.bind_eq_some_iff.mp h
    obtain ⟨rest, hrest, h⟩ := Option.bind_eq_some_iff.mp h
    cases Option.some.inj h
    intro z hz
    rcases List.mem_cons.mp hz with rfl | hz
    · exact ⟨x, List.mem_cons_self, hy⟩
    · obtain ⟨w, hw, hwz⟩ := ih hrest z hz
      exact ⟨w, List.mem_cons_of_mem _ hw, hwz⟩

theorem Faithful.array {read? : Json → Option α} {write : α → Json} (h : Faithful read? write) :
    Stable (arrayOf? read?) fun vs => .arr (vs.map write) := by
  refine Faithful.stable ⟨?_, ?_⟩ (by simp)
  · intro vs hvs
    rw [wellKeyed_arr] at hvs
    exact h.mapM_write fun v hv => hvs _ (List.mem_map_of_mem hv)
  · intro j vs hr
    cases j with
    | arr items =>
      rw [wellKeyed_arr]
      intro i hi
      obtain ⟨v, hv, rfl⟩ := List.mem_map.mp hi
      obtain ⟨i, _, hiv⟩ := exists_of_mapM hr v hv
      exact h.wellKeyed i v hiv
    | _ => simp [arrayOf?] at hr

/-! ### Maps -/

theorem members_of_mapM {read? : Json → Option α} {members : List (String × Json)}
    {es : List (String × α)}
    (h : (members.mapM fun m => (read? m.2).map fun v => (m.1, v)) = some es) :
    Keyed.keys es = Keyed.keys members ∧
      ∀ k j, members.lookup k = some j → ∃ v, read? j = some v ∧ es.lookup k = some v := by
  induction members generalizing es with
  | nil =>
    cases Option.some.inj h
    simp
  | cons m members ih =>
    rw [List.mapM_cons] at h
    obtain ⟨x, hx, h⟩ := Option.bind_eq_some_iff.mp h
    obtain ⟨rest, hrest, h⟩ := Option.bind_eq_some_iff.mp h
    obtain ⟨v, hv, rfl⟩ := Option.map_eq_some_iff.mp hx
    cases Option.some.inj h
    obtain ⟨hk, hl⟩ := ih hrest
    refine ⟨by rw [Keyed.keys_cons, Keyed.keys_cons, hk], fun k j hj => ?_⟩
    rw [Keyed.lookup_cons_eq] at hj ⊢
    by_cases he : k = m.1
    · rw [if_pos he] at hj ⊢
      cases Option.some.inj hj
      exact ⟨v, hv, rfl⟩
    · rw [if_neg he] at hj ⊢
      exact hl k j hj

theorem mapM_of_members {read? : Json → Option α} {members : List (String × Json)}
    (hn : (Keyed.keys members).Nodup) {es : List (String × α)}
    (hk : Keyed.keys es = Keyed.keys members)
    (hl : ∀ k j, members.lookup k = some j → ∃ v, read? j = some v ∧ es.lookup k = some v) :
    (members.mapM fun m => (read? m.2).map fun v => (m.1, v)) = some es := by
  induction members generalizing es with
  | nil =>
    rw [List.map_eq_nil_iff.mp hk]
    rfl
  | cons m members ih =>
    obtain ⟨hm, hn⟩ := List.nodup_cons.mp hn
    cases es with
    | nil => simp at hk
    | cons e rest =>
      obtain ⟨he, hk⟩ := List.cons.inj hk
      obtain ⟨v, hv, hev⟩ := hl m.1 m.2 (by simp [Keyed.lookup_cons_eq])
      have hval : e.2 = v := by simpa [Keyed.lookup_cons_eq, he] using hev
      have hrest : (members.mapM fun m => (read? m.2).map fun v => (m.1, v)) = some rest := by
        refine ih hn hk fun k j hj => ?_
        have hne : k ≠ m.1 := by
          rintro rfl
          exact hm (Keyed.mem_keys_of_lookup hj)
        simpa [Keyed.lookup_cons_eq, hne, he] using hl k j (by simpa [Keyed.lookup_cons_eq, hne])
      rw [List.mapM_cons, hv, hrest, show e = (m.1, v) from Prod.ext he hval]
      rfl

theorem mapOf?_obj {read? : Json → Option α} {members : List (String × Json)}
    (hn : (Keyed.keys members).Nodup) {m : OrderedMap α} :
    mapOf? read? (.obj members) = some m ↔
      m.keys = Keyed.keys members ∧
        ∀ k j, members.lookup k = some j → ∃ v, read? j = some v ∧ m.get? k = some v := by
  rw [mapOf?, Option.map_eq_some_iff]
  constructor
  · rintro ⟨es, hes, rfl⟩
    have h := members_of_mapM hes
    have he : (OrderedMap.ofList es).entries = es := OrderedMap.entries_ofList (h.1 ▸ hn)
    simp only [OrderedMap.keys, OrderedMap.get?, he]
    exact h
  · intro h
    exact ⟨m.entries, mapM_of_members hn h.1 h.2, OrderedMap.ofList_entries m⟩

/-- Each value of a map is read of the member under its key. -/
theorem exists_of_mapOf? {read? : Json → Option α} {members : List (String × Json)}
    (hn : (Keyed.keys members).Nodup) {m : OrderedMap α}
    (h : mapOf? read? (.obj members) = some m) {k : String} {v : α} (hv : m.get? k = some v) :
    ∃ j, members.lookup k = some j ∧ read? j = some v := by
  obtain ⟨hk, hl⟩ := (mapOf?_obj hn).mp h
  have hmem : k ∈ m.keys := Keyed.mem_keys_of_lookup hv
  obtain ⟨j, hj⟩ := Keyed.exists_lookup (hk ▸ hmem)
  obtain ⟨w, hr, hw⟩ := hl k j hj
  cases Option.some.inj (hv.symm.trans hw)
  exact ⟨j, hj, hr⟩

/-- What is read as a map has, for each key, what is read of some value. -/
theorem mapOf?_values {read? : Json → Option α} {j : Json} {m : OrderedMap α}
    (h : mapOf? read? j = some m) : ∀ e ∈ m.entries, ∃ i, read? i = some e.2 := by
  cases j with
  | obj members =>
    obtain ⟨es, hes, rfl⟩ := Option.map_eq_some_iff.mp h
    intro e he
    rw [OrderedMap.ofList, OrderedMap.entries_insertAll] at he
    rcases Keyed.mem_foldl_put he with he | he
    · simp [OrderedMap.empty] at he
    · obtain ⟨x, _, hx⟩ := exists_of_mapM hes e he
      obtain ⟨v, hv, rfl⟩ := Option.map_eq_some_iff.mp hx
      exact ⟨x.2, hv⟩
  | _ => simp [mapOf?] at h

theorem wellKeyed_ofMap {write : α → Json} {m : OrderedMap α} :
    (ofMap write m).WellKeyed ↔ ∀ e ∈ m.entries, (write e.2).WellKeyed := by
  rw [ofMap, wellKeyed_obj, Keyed.keys_map]
  constructor
  · intro h e he
    exact h.2 _ (List.mem_map_of_mem he)
  · intro h
    refine ⟨m.nodup, fun x hx => ?_⟩
    obtain ⟨e, he, rfl⟩ := List.mem_map.mp hx
    exact h e he

/-- Where the members of a map come from, when overrides were merged over the map or are it. -/
theorem exists_members_of_over {write : α → Json} {os : List (String × Json)} {j : Json}
    (ho : (obj os).WellKeyed) (h : Over (ofMap write) (.obj os) j) :
    ∃ ms, j = .obj ms ∧ (Keyed.keys ms).Nodup ∧
      (∀ m ∈ os, m.2 ≠ .null → m.1 ∈ Keyed.keys ms) ∧
      ∀ k x o, ms.lookup k = some x → os.lookup k = some o → Over write o x := by
  have hkeys := (wellKeyed_obj.mp ho).1
  rcases h with rfl | ⟨u, hu, rfl⟩
  · refine ⟨os, rfl, hkeys, fun m hm _ => Keyed.mem_keys_of_mem hm, fun k x o hx hk => ?_⟩
    exact Or.inl (Option.some.inj (hx.symm.trans hk))
  · rw [wellKeyed_ofMap] at hu
    refine ⟨_, merge_obj_obj _ _, nodup_keys_mergeMembers (by simpa using u.nodup) hkeys,
      fun m => mem_keys_mergeMembers hkeys, fun k x o hx hk => ?_⟩
    rw [lookup_mergeMembers hkeys, hk, Keyed.lookup_map] at hx
    rcases mergeAt_eq_some hx with ⟨_, hnone⟩ | ⟨_, he, _⟩ | ⟨old, new, hold, he, rfl⟩
    · simp at hnone
    · exact Or.inl (Option.some.inj he).symm
    · obtain ⟨w, hw, rfl⟩ := Option.map_eq_some_iff.mp hold
      cases Option.some.inj he
      exact Or.inr ⟨w, hu _ (Keyed.mem_of_lookup hw), rfl⟩

theorem Faithful.map {read? : Json → Option α} {write : α → Json} (h : Faithful read? write) :
    Faithful (mapOf? read?) (ofMap write) where
  read_write m hm := by
    rw [wellKeyed_ofMap] at hm
    rw [ofMap, mapOf?_obj (by simpa using m.nodup)]
    refine ⟨by rw [Keyed.keys_map]; rfl, fun k j hj => ?_⟩
    rw [Keyed.lookup_map] at hj
    obtain ⟨v, hv, rfl⟩ := Option.map_eq_some_iff.mp hj
    exact ⟨v, h.read_write v (hm _ (Keyed.mem_of_lookup hv)), hv⟩
  wellKeyed j m hr := by
    rw [wellKeyed_ofMap]
    intro e he
    obtain ⟨i, hi⟩ := mapOf?_values hr e he
    exact h.wellKeyed i e.2 hi

theorem Stable.map_members {read? : Json → Option α} {write : α → Json} (h : Stable read? write)
    {os : List (String × Json)} {j : Json} {m : OrderedMap α} (ho : (obj os).WellKeyed)
    (hj : Over (ofMap write) (.obj os) j) (hr : mapOf? read? j = some m) :
    mapOf? read? ((ofMap write m).merge (.obj os)) = some m := by
  have hkeys := (wellKeyed_obj.mp ho).1
  obtain ⟨ms, rfl, hms, hmem, hover⟩ := exists_members_of_over ho hj
  have hmk : m.keys = Keyed.keys ms := ((mapOf?_obj hms).mp hr).1
  rw [ofMap, merge_obj_obj, mapOf?_obj (nodup_keys_mergeMembers (by simpa using m.nodup) hkeys)]
  constructor
  · rw [keys_mergeMembers_of_mem hkeys, Keyed.keys_map]
    · rfl
    · intro x hx hnull
      rw [Keyed.keys_map]
      change x.1 ∈ m.keys
      rw [hmk]
      exact hmem x hx hnull
  · intro k x hx
    rw [lookup_mergeMembers hkeys, Keyed.lookup_map] at hx
    rcases mergeAt_eq_some hx with ⟨hold, _⟩ | ⟨hold, hnew, hnull⟩ | ⟨old, new, hold, hnew, rfl⟩
    · obtain ⟨w, hw, rfl⟩ := Option.map_eq_some_iff.mp hold
      obtain ⟨y, _, hy⟩ := exists_of_mapOf? hms hr hw
      exact ⟨w, h.read_write_of_read hy, hw⟩
    · have hk : k ∈ m.keys := hmk ▸ hmem (k, x) (Keyed.mem_of_lookup hnew) hnull
      obtain ⟨w, hw⟩ := OrderedMap.mem_keys_iff.mp hk
      simp [OrderedMap.get?.eq_def] at hw
      simp [hw] at hold
    · obtain ⟨w, hw, rfl⟩ := Option.map_eq_some_iff.mp hold
      obtain ⟨y, hy, hyw⟩ := exists_of_mapOf? hms hr hw
      exact ⟨w, h.stable new y w (wellKeyed_of_lookup ho hnew) (hover k y new hy hnew) hyw, hw⟩

theorem Stable.map {read? : Json → Option α} {write : α → Json} (h : Stable read? write) :
    Stable (mapOf? read?) (ofMap write) where
  toFaithful := h.toFaithful.map
  stable := by
    intro o j m ho hj hr
    cases o with
    | null =>
      rw [merge_null]
      exact h.toFaithful.map.read_write_of_read hr
    | obj os => exact h.map_members ho hj hr
    | _ => rcases hj with rfl | ⟨u, _, rfl⟩ <;> simp [mapOf?] at hr

end Gleaner.Json
