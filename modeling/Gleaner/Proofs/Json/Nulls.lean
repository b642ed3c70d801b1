import Gleaner.Proofs.Json.KeyPath

/-!
Overrides without their `null` members. To leave them out changes nothing just where each of them
meets an object of the base (`merge_withoutNulls_iff`): what the base lacks is taken over as it is,
with the `null`s in it.
-/
namespace Gleaner.Json

mutual

/-- A document without the members that are `null`, at any depth below objects. Arrays stay. -/
def withoutNulls : Json → Json
  | .obj members => .obj (withoutNullMembers members)
  | j => j

def withoutNullMembers : List (String × Json) → List (String × Json)
  | [] => []
  | (k, j) :: rest =>
    if j.isNull then withoutNullMembers rest else (k, j.withoutNulls) :: withoutNullMembers rest

end

/-- Whether every `null` member of an override stands in an object that the base has as well. -/
def NullsMeet (base o : Json) : Prop :=
  ∀ path members, o.atKeys? path = some (.obj members) → (∃ m ∈ members, m.2 = .null) →
    ∃ own, base.atKeys? path = some (.obj own)

@[simp] theorem withoutNulls_obj (members : List (String × Json)) :
    (obj members).withoutNulls = obj (withoutNullMembers members) := by rw [withoutNulls]

theorem withoutNulls_of_not_obj {j : Json} (h : ∀ members, j ≠ .obj members) :
    j.withoutNulls = j := by
  cases j with
  | obj members => exact absurd rfl (h members)
  | _ => simp [withoutNulls]

theorem withoutNullMembers_eq (members : List (String × Json)) :
    withoutNullMembers members =
      (members.filter fun m => !m.2.isNull).map fun m => (m.1, m.2.withoutNulls) := by
  induction members with
  | nil => simp [withoutNullMembers]
  | cons m members ih =>
    obtain ⟨k, j⟩ := m
    by_cases hj : j.isNull = true <;> simp [withoutNullMembers, hj, ih]

theorem lookup_withoutNullMembers {members : List (String × Json)}
    (hn : (Keyed.keys members).Nodup) (k : String) :
    (withoutNullMembers members).lookup k =
      ((members.lookup k).filter fun j => !j.isNull).map withoutNulls := by
  rw [withoutNullMembers_eq, Keyed.lookup_map, Keyed.lookup_filter_values (!·.isNull) k hn]

theorem withoutNulls_eq_null {j : Json} : j.withoutNulls = .null ↔ j = .null := by
  cases j <;> simp [withoutNulls]

theorem wellKeyed_withoutNulls {j : Json} (h : j.WellKeyed) : j.withoutNulls.WellKeyed := by
  induction j using inductionOn with
  | obj members ih =>
    obtain ⟨hkeys, hmembers⟩ := wellKeyed_obj.mp h
    rw [withoutNulls_obj, withoutNullMembers_eq, wellKeyed_obj, Keyed.keys_map]
    refine ⟨hkeys.sublist (List.filter_sublist.map Prod.fst), fun x hx => ?_⟩
    obtain ⟨m, hm, rfl⟩ := List.mem_map.mp hx
    have hm := (List.mem_filter.mp hm).1
    exact ih m hm (hmembers m hm)
  | _ => rwa [withoutNulls_of_not_obj (by simp)]

theorem atKeys?_withoutNulls {j v : Json} (hj : j.WellKeyed) {path : List String}
    (h : j.atKeys? path = some v) (hv : v ≠ .null) :
    j.withoutNulls.atKeys? path = some v.withoutNulls := by
  induction path generalizing j with
  | nil =>
    cases Option.some.inj h
    rfl
  | cons k path ih =>
    obtain ⟨members, i, rfl, hi, hbelow⟩ := atKeys?_cons_eq_some.mp h
    have hnull := isNull_eq_false.mpr (ne_null_of_atKeys? hbelow hv)
    rw [withoutNulls_obj, atKeys?_obj_cons, lookup_withoutNullMembers (wellKeyed_obj.mp hj).1, hi]
    simpa [Option.filter, hnull] using ih (wellKeyed_of_lookup hj hi) hbelow

theorem not_null_of_mem_withoutNullMembers {members : List (String × Json)} {m : String × Json}
    (h : m ∈ withoutNullMembers members) : m.2 ≠ .null := by
  rw [withoutNullMembers_eq] at h
  obtain ⟨x, hx, rfl⟩ := List.mem_map.mp h
  have hx := (List.mem_filter.mp hx).2
  intro he
  simp [withoutNulls_eq_null.mp he, isNull] at hx

/-! ### Merging -/

theorem nullsMeet_of_lookup {own members : List (String × Json)}
    (h : NullsMeet (.obj own) (.obj members)) {k : String} {old new : Json}
    (hold : own.lookup k = some old) (hnew : members.lookup k = some new) : NullsMeet old new := by
  intro path ms hms hnull
  obtain ⟨os, hos⟩ := h (k :: path) ms (by rw [atKeys?_obj_cons, hnew]; exact hms) hnull
  rw [atKeys?_obj_cons, hold] at hos
  exact ⟨os, hos⟩

theorem withoutNulls_eq_self {o : Json} (ho : o.WellKeyed)
    (hfree : ∀ path members, o.atKeys? path = some (.obj members) → ∀ m ∈ members, m.2 ≠ .null) :
    o.withoutNulls = o := by
  induction o using inductionOn with
  | obj members ih =>
    obtain ⟨hkeys, hmembers⟩ := wellKeyed_obj.mp ho
    have hall : members.filter (fun m => !m.2.isNull) = members := by
      rw [List.filter_eq_self]
      intro m hm
      simpa using isNull_eq_false.mpr (hfree [] members rfl m hm)
    rw [withoutNulls_obj, withoutNullMembers_eq, hall]
    congr 1
    refine (List.map_congr_left fun m hm => ?_).trans (List.map_id' members)
    rw [ih m hm (hmembers m hm)]
    intro path ms hms
    refine hfree (m.1 :: path) ms ?_
    rw [atKeys?_obj_cons, Keyed.lookup_of_mem hkeys hm]
    exact hms
  | _ => exact withoutNulls_of_not_obj (by simp)

theorem mergeMember_eq (own : List (String × Json)) (k : String) (j : Json) :
    mergeMember own (k, j) =
      ((mergeAt (own.lookup k) (some j)).map fun v => Keyed.put k v own).getD own := by
  unfold mergeMember
  cases hk : own.lookup k with
  | some old => rfl
  | none =>
    by_cases hj : j = .null
    · simp [hj, isNull]
    · have hput := Keyed.put_of_not_mem j (Keyed.lookup_eq_none.mp hk)
      simp [mergeAt_none_some hj, isNull_eq_false.mpr hj, hput]

theorem mergeMember_null (own : List (String × Json)) (k : String) :
    mergeMember own (k, .null) = own := by
  rw [mergeMember_eq]
  cases hk : own.lookup k with
  | some old => simp [Keyed.put_of_lookup hk]
  | none => rfl

theorem mergeMembers_withoutNulls {own members : List (String × Json)}
    (hn : (Keyed.keys members).Nodup)
    (h : ∀ k j, members.lookup k = some j →
      mergeAt (own.lookup k) (some j.withoutNulls) = mergeAt (own.lookup k) (some j)) :
    mergeMembers own (withoutNullMembers members) = mergeMembers own members := by
  rw [mergeMembers_eq_foldl, mergeMembers_eq_foldl]
  induction members generalizing own with
  | nil => rfl
  | cons m members ih =>
    obtain ⟨k, j⟩ := m
    obtain ⟨hk, hn⟩ := List.nodup_cons.mp hn
    have hstep : (withoutNullMembers ((k, j) :: members)).foldl mergeMember own =
        (withoutNullMembers members).foldl mergeMember (mergeMember own (k, j)) := by
      rw [withoutNullMembers]
      split
      next hj => rw [isNull_iff.mp hj, mergeMember_null]
      next =>
        have hj := h k j (by simp)
        rw [List.foldl_cons, mergeMember_eq, hj, ← mergeMember_eq]
    rw [hstep, List.foldl_cons, ih hn]
    -- The later members have other keys, so that they still meet what they met before.
    intro k' j' hj'
    have hne : k' ≠ k := by
      rintro rfl
      exact hk (Keyed.mem_keys_of_lookup hj')
    rw [lookup_mergeMember, if_neg hne]
    exact h k' j' (by rw [Keyed.lookup_cons_eq, if_neg hne, hj'])

theorem merge_withoutNulls {base o : Json} (ho : o.WellKeyed) (h : NullsMeet base o) :
    base.merge o.withoutNulls = base.merge o := by
  induction o using inductionOn generalizing base with
  | obj members ih =>
    rcases obj_or base with ⟨own, rfl⟩ | hbase
    · rw [withoutNulls_obj, merge_obj_obj, merge_obj_obj]
      congr 1
      refine mergeMembers_withoutNulls (wellKeyed_obj.mp ho).1 fun k new hnew => ?_
      cases hold : own.lookup k with
      | some old =>
        have hmeet := nullsMeet_of_lookup h hold hnew
        rw [mergeAt_some_some, mergeAt_some_some,
          ih (k, new) (Keyed.mem_of_lookup hnew) (wellKeyed_of_lookup ho hnew) hmeet]
      | none =>
        rw [withoutNulls_eq_self (wellKeyed_of_lookup ho hnew)]
        intro path ms hms m hm hnull
        have hbelow : (obj members).atKeys? (k :: path) = some (.obj ms) := by
          rw [atKeys?_obj_cons, hnew]
          exact hms
        obtain ⟨os, hos⟩ := h (k :: path) ms hbelow ⟨m, hm, hnull⟩
        simp [hold] at hos
    · rw [withoutNulls_eq_self ho]
      intro path ms hms m hm hnull
      obtain ⟨os, hos⟩ := h path ms hms ⟨m, hm, hnull⟩
      obtain ⟨own, rfl⟩ := exists_obj_of_atKeys? hos
      exact hbase own rfl
  | _ => rw [withoutNulls_of_not_obj (by simp)]

theorem merge_withoutNulls_iff {base o : Json} (ho : o.WellKeyed) :
    base.merge o.withoutNulls = base.merge o ↔ NullsMeet base o := by
  refine ⟨fun h path members hpath hnull => ?_, merge_withoutNulls ho⟩
  obtain ⟨m, hm, hnull⟩ := hnull
  have hwithout := atKeys?_withoutNulls ho hpath (by simp)
  rw [withoutNulls_obj] at hwithout
  have hsame : mergeAt (base.atKeys? path) (some (.obj (withoutNullMembers members))) =
      mergeAt (base.atKeys? path) (some (.obj members)) := by
    rw [← atKeys?_merge (wellKeyed_withoutNulls ho) hwithout (by simp), h,
      atKeys?_merge ho hpath (by simp)]
  have hne : withoutNullMembers members ≠ members := by
    intro he
    rw [← he] at hm
    exact not_null_of_mem_withoutNullMembers hm hnull
  -- With no object to meet, both overrides would come out as they are.
  cases hold : base.atKeys? path with
  | none =>
    rw [hold, mergeAt_none_some (by simp), mergeAt_none_some (by simp)] at hsame
    simp [hne] at hsame
  | some old =>
    rcases obj_or old with ⟨own, rfl⟩ | hobj
    · exact ⟨own, rfl⟩
    · rw [hold, mergeAt_some_some, mergeAt_some_some, merge_obj_of_not_obj hobj,
        merge_obj_of_not_obj hobj] at hsame
      simp [hne] at hsame

end Gleaner.Json
