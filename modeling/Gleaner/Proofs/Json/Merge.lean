import Gleaner.Json.Merge
import Gleaner.Proofs.Json.WellKeyed

/-!
Merging seen key by key. The members of two merged objects are those of the base, each merged with
the override's member of its key, and behind them the override's new ones (`keys_mergeMembers`,
`lookup_mergeMembers`). Merging the same overrides once more changes nothing (`merge_merge_self`).
-/
namespace Gleaner.Json

/-- What stands under one key of an object, with an override for it. -/
def mergeAt : Option Json → Option Json → Option Json
  | base, none => base
  | none, some o => if o.isNull then none else some o
  | some base, some o => some (base.merge o)

theorem isNull_iff {j : Json} : j.isNull = true ↔ j = .null := by
  cases j <;> simp [isNull]

theorem isNull_eq_false {j : Json} : j.isNull = false ↔ j ≠ .null := by
  rw [← Bool.not_eq_true, isNull_iff]

@[simp] theorem mergeAt_none (base : Option Json) : mergeAt base none = base := by
  cases base <;> rfl

@[simp] theorem mergeAt_some_some (base o : Json) :
    mergeAt (some base) (some o) = some (base.merge o) := rfl

theorem mergeAt_none_some {o : Json} (h : o ≠ .null) : mergeAt none (some o) = some o := by
  simp [mergeAt, isNull_eq_false.mpr h]

@[simp] theorem mergeAt_none_null : mergeAt none (some .null) = none := rfl

/-- What an override makes of a value, by the kind of the override. -/
theorem merge_eq (base o : Json) : base.merge o = match o with
    | .null => base
    | .obj members => match base with
      | .obj own => .obj (mergeMembers own members)
      | _ => .obj members
    | o => o := by
  cases o with
  | obj members => cases base <;> simp [merge]
  | _ => simp [merge]

@[simp] theorem merge_null (base : Json) : base.merge .null = base := merge_eq base .null

@[simp] theorem merge_obj_obj (own members : List (String × Json)) :
    (obj own).merge (obj members) = obj (mergeMembers own members) := merge_eq _ _

@[simp] theorem merge_bool (base : Json) (b : Bool) : base.merge (.bool b) = .bool b :=
  merge_eq _ _

@[simp] theorem merge_num (base : Json) (n : Number) : base.merge (.num n) = .num n :=
  merge_eq _ _

@[simp] theorem merge_str (base : Json) (s : String) : base.merge (.str s) = .str s :=
  merge_eq _ _

@[simp] theorem merge_arr (base : Json) (items : List Json) :
    base.merge (.arr items) = .arr items :=
  merge_eq _ _

/-- Nothing but an object takes members into it. -/
theorem merge_of_not_obj {base o : Json} (hb : ∀ own, base ≠ .obj own) (ho : o ≠ .null) :
    base.merge o = o := by
  cases o with
  | null => exact absurd rfl ho
  | obj members =>
    cases base with
    | obj own => exact absurd rfl (hb own)
    | _ => exact merge_eq _ _
  | _ => simp

theorem merge_obj_of_not_obj {base : Json} (h : ∀ own, base ≠ .obj own)
    (members : List (String × Json)) : base.merge (.obj members) = .obj members :=
  merge_of_not_obj h (by simp)

theorem obj_or (j : Json) : (∃ members, j = .obj members) ∨ ∀ members, j ≠ .obj members := by
  cases j <;> simp

theorem merge_ne_null {base o : Json} (h : base ≠ .null) : base.merge o ≠ .null := by
  cases o with
  | null => rwa [merge_null]
  | obj members => cases base <;> simp [merge_eq]
  | _ => simp

theorem null_merge (o : Json) : Json.null.merge o = o := by
  by_cases ho : o = .null
  · rw [ho, merge_null]
  · exact merge_of_not_obj (by simp) ho

theorem mergeAt_eq_some {base o : Option Json} {j : Json} (h : mergeAt base o = some j) :
    (base = some j ∧ o = none) ∨ (base = none ∧ o = some j ∧ j ≠ .null) ∨
      ∃ old new, base = some old ∧ o = some new ∧ j = old.merge new := by
  cases o with
  | none => exact Or.inl ⟨by simpa using h, rfl⟩
  | some new =>
    cases base with
    | none =>
      by_cases hn : new = .null
      · simp [hn] at h
      · rw [mergeAt_none_some hn] at h
        cases Option.some.inj h
        exact Or.inr (Or.inl ⟨rfl, rfl, hn⟩)
    | some old => exact Or.inr (Or.inr ⟨old, new, rfl, rfl, (Option.some.inj h).symm⟩)

/-- Merges one member. -/
def mergeMember (own : List (String × Json)) (m : String × Json) : List (String × Json) :=
  match own.lookup m.1 with
  | some old => Keyed.put m.1 (old.merge m.2) own
  | none => if m.2.isNull then own else own ++ [m]

theorem mergeMembers_eq_foldl (own members : List (String × Json)) :
    mergeMembers own members = members.foldl mergeMember own := by
  induction members generalizing own with
  | nil => rw [mergeMembers]; rfl
  | cons m members ih =>
    obtain ⟨k, j⟩ := m
    rw [mergeMembers, ih, List.foldl_cons]
    rfl

theorem lookup_mergeMember (own : List (String × Json)) (m : String × Json) (k : String) :
    (mergeMember own m).lookup k =
      if k = m.1 then mergeAt (own.lookup k) (some m.2) else own.lookup k := by
  obtain ⟨key, j⟩ := m
  unfold mergeMember
  cases hk : own.lookup key with
  | some old =>
    rw [Keyed.lookup_put]
    by_cases he : k = key
    · subst he
      simp [hk]
    · simp [he]
  | none =>
    by_cases he : k = key
    · subst he
      by_cases hj : j = .null
      · simp [hj, hk, isNull]
      · have hn := isNull_eq_false.mpr hj
        simp [hn, hk, List.lookup_append, mergeAt_none_some hj]
    · by_cases hn : j.isNull = true
      · simp [hn, he]
      · simp [hn, he, List.lookup_append, Keyed.lookup_cons_eq]

theorem lookup_mergeMembers {own members : List (String × Json)}
    (hn : (Keyed.keys members).Nodup) (k : String) :
    (mergeMembers own members).lookup k = mergeAt (own.lookup k) (members.lookup k) := by
  rw [mergeMembers_eq_foldl]
  induction members generalizing own with
  | nil => simp
  | cons m members ih =>
    obtain ⟨hm, hn⟩ := List.nodup_cons.mp hn
    rw [List.foldl_cons, ih hn, lookup_mergeMember, Keyed.lookup_cons_eq]
    by_cases he : k = m.1
    · subst he
      simp [Keyed.lookup_eq_none.mpr hm]
    · simp [he]

/-- Whether a member comes in as a new one. -/
def isNew (own : List (String × Json)) (m : String × Json) : Bool :=
  !(Keyed.keys own).contains m.1 && !m.2.isNull

theorem keys_mergeMember (own : List (String × Json)) (m : String × Json) :
    Keyed.keys (mergeMember own m) =
      Keyed.keys own ++ Keyed.keys ([m].filter (isNew own)) := by
  unfold mergeMember
  cases hk : own.lookup m.1 with
  | some old =>
    have hm := Keyed.mem_keys_of_lookup hk
    simp [Keyed.keys_put, isNew, hm]
  | none =>
    have hm := Keyed.lookup_eq_none.mp hk
    by_cases hn : m.2.isNull = true
    · simp [hn, isNew]
    · simp [hn, isNew, hm]

/-- The keys of the base come first, in their order, and behind them those that are new. -/
theorem keys_mergeMembers {own members : List (String × Json)} (hn : (Keyed.keys members).Nodup) :
    Keyed.keys (mergeMembers own members) =
      Keyed.keys own ++ Keyed.keys (members.filter (isNew own)) := by
  rw [mergeMembers_eq_foldl]
  induction members generalizing own with
  | nil => simp
  | cons m members ih =>
    obtain ⟨hm, hn⟩ := List.nodup_cons.mp hn
    -- The first member changes which keys are there, but no later one has its key.
    have hlater : members.filter (isNew (mergeMember own m)) = members.filter (isNew own) := by
      apply List.filter_congr
      intro x hx
      have hne : x.1 ≠ m.1 := by
        intro he
        exact hm (he ▸ Keyed.mem_keys_of_mem hx)
      have hmem : x.1 ∈ Keyed.keys (mergeMember own m) ↔ x.1 ∈ Keyed.keys own := by
        rw [keys_mergeMember, List.mem_append]
        by_cases hnew : isNew own m = true <;> simp [hnew, hne]
      simp [isNew, hmem]
    rw [List.foldl_cons, ih hn, hlater, keys_mergeMember, List.append_assoc, ← Keyed.keys_append,
      ← List.filter_append, List.singleton_append]

theorem nodup_keys_mergeMembers {own members : List (String × Json)}
    (ho : (Keyed.keys own).Nodup) (hn : (Keyed.keys members).Nodup) :
    (Keyed.keys (mergeMembers own members)).Nodup := by
  rw [keys_mergeMembers hn, List.nodup_append]
  refine ⟨ho, hn.sublist (List.filter_sublist.map Prod.fst), ?_⟩
  rintro k hk k' hk' rfl
  obtain ⟨m, hm, rfl⟩ := List.mem_map.mp hk'
  have hnew := (List.mem_filter.mp hm).2
  simp [isNew, hk] at hnew

theorem mem_keys_mergeMembers {own members : List (String × Json)}
    (hn : (Keyed.keys members).Nodup) {m : String × Json} (hm : m ∈ members) (hj : m.2 ≠ .null) :
    m.1 ∈ Keyed.keys (mergeMembers own members) := by
  rw [keys_mergeMembers hn, List.mem_append]
  by_cases hk : m.1 ∈ Keyed.keys own
  · exact Or.inl hk
  · refine Or.inr (Keyed.mem_keys_of_mem (List.mem_filter.mpr ⟨hm, ?_⟩))
    simp [isNew, hk, isNull_eq_false.mpr hj]

theorem wellKeyed_merge {base o : Json} (hb : base.WellKeyed) (ho : o.WellKeyed) :
    (base.merge o).WellKeyed := by
  induction o using inductionOn generalizing base with
  | null => rwa [merge_null]
  | bool b => rwa [merge_bool]
  | num n => rwa [merge_num]
  | str s => rwa [merge_str]
  | arr items => rwa [merge_arr]
  | obj members ih =>
    rcases obj_or base with ⟨own, rfl⟩ | hbase
    · have hkeys := (wellKeyed_obj.mp ho).1
      have hnodup := nodup_keys_mergeMembers (wellKeyed_obj.mp hb).1 hkeys
      rw [merge_obj_obj, wellKeyed_obj]
      refine ⟨hnodup, fun m hm => ?_⟩
      have hl := Keyed.lookup_of_mem hnodup hm
      rw [lookup_mergeMembers hkeys] at hl
      rcases mergeAt_eq_some hl with ⟨hold, _⟩ | ⟨_, hnew, _⟩ | ⟨old, new, hold, hnew, he⟩
      · exact wellKeyed_of_lookup hb hold
      · exact wellKeyed_of_lookup ho hnew
      · rw [he]
        exact ih (m.1, new) (Keyed.mem_of_lookup hnew) (wellKeyed_of_lookup hb hold)
          (wellKeyed_of_lookup ho hnew)
    · rw [merge_obj_of_not_obj hbase]
      exact ho

theorem keys_mergeMembers_of_mem {own members : List (String × Json)}
    (hn : (Keyed.keys members).Nodup)
    (hkeys : ∀ m ∈ members, m.2 ≠ .null → m.1 ∈ Keyed.keys own) :
    Keyed.keys (mergeMembers own members) = Keyed.keys own := by
  have hnew : members.filter (isNew own) = [] := by
    rw [List.filter_eq_nil_iff]
    intro m hm hnew
    simp only [isNew, Bool.and_eq_true, Bool.not_eq_true', List.contains_eq_mem,
      decide_eq_false_iff_not] at hnew
    have hnull : m.2 ≠ .null := by
      intro he
      simp [he, isNull] at hnew
    exact hnew.1 (hkeys m hm hnull)
  simp [keys_mergeMembers hn, hnew]

/-- Members that are there already, merged into what they stand under, change nothing. -/
theorem mergeMembers_eq_self {own members : List (String × Json)} (ho : (Keyed.keys own).Nodup)
    (hn : (Keyed.keys members).Nodup)
    (hkeys : ∀ m ∈ members, m.2 ≠ .null → m.1 ∈ Keyed.keys own)
    (hmerge : ∀ k old new, own.lookup k = some old → members.lookup k = some new →
      old.merge new = old) :
    mergeMembers own members = own := by
  have hk := keys_mergeMembers_of_mem hn hkeys
  refine Keyed.eq_of_lookup hk (hk ▸ ho) fun k => ?_
  rw [lookup_mergeMembers hn]
  cases hnew : members.lookup k with
  | none => rw [mergeAt_none]
  | some new =>
    cases hold : own.lookup k with
    | some old => rw [mergeAt_some_some, hmerge k old new hold hnew]
    | none =>
      by_cases hnull : new = .null
      · rw [hnull, mergeAt_none_null]
      · have hmem := hkeys (k, new) (Keyed.mem_of_lookup hnew) hnull
        exact absurd hmem (Keyed.lookup_eq_none.mp hold)

theorem merge_merge_self {base o : Json} (hb : base.WellKeyed) (ho : o.WellKeyed) :
    (base.merge o).merge o = base.merge o := by
  induction o using inductionOn generalizing base with
  | null => simp
  | bool b => simp
  | num n => simp
  | str s => simp
  | arr items => simp
  | obj members ih =>
    have hkeys := (wellKeyed_obj.mp ho).1
    have hself : ∀ k new, members.lookup k = some new → ∀ old : Json, old.WellKeyed →
        (old.merge new).merge new = old.merge new := fun k new hnew old hold =>
      ih (k, new) (Keyed.mem_of_lookup hnew) hold (wellKeyed_of_lookup ho hnew)
    have hagain : ∀ k new, members.lookup k = some new → new.merge new = new := by
      intro k new hnew
      simpa [null_merge] using hself k new hnew .null trivial
    rcases obj_or base with ⟨own, rfl⟩ | hbase
    · have hnodup := nodup_keys_mergeMembers (wellKeyed_obj.mp hb).1 hkeys
      rw [merge_obj_obj, merge_obj_obj]
      congr 1
      refine mergeMembers_eq_self hnodup hkeys (fun m hm => mem_keys_mergeMembers hkeys hm) ?_
      intro k x new hx hnew
      rw [lookup_mergeMembers hkeys, hnew] at hx
      rcases mergeAt_eq_some hx with ⟨_, hnone⟩ | ⟨_, he, _⟩ | ⟨old, new', hold, he, hmerged⟩
      · simp at hnone
      · cases Option.some.inj he
        exact hagain k x hnew
      · cases Option.some.inj he
        rw [hmerged]
        exact hself k new hnew old (wellKeyed_of_lookup hb hold)
    · rw [merge_obj_of_not_obj hbase, merge_obj_obj]
      congr 1
      refine mergeMembers_eq_self hkeys hkeys (fun m hm _ => Keyed.mem_keys_of_mem hm) ?_
      intro k old new hold hnew
      cases Option.some.inj (hold.symm.trans hnew)
      exact hagain k old hold

theorem merge_self {o : Json} (ho : o.WellKeyed) : o.merge o = o := by
  have h : (Json.null.merge o).merge o = Json.null.merge o := merge_merge_self trivial ho
  rwa [null_merge] at h

end Gleaner.Json
