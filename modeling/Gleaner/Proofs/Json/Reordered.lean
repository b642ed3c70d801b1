import Gleaner.Proofs.Json.KeyPath

/-!
Documents that differ in the order of members alone, and merging two overrides one after the other.
As long as the second brings no object to where the first has replaced one, the two may as well be
merged into each other first (`reordered_merge_merge`).
-/
namespace Gleaner.Json

/-- Equal up to the order of members, in objects at every depth. -/
inductive Reordered : Json → Json → Prop
  | null : Reordered .null .null
  | bool (b) : Reordered (.bool b) (.bool b)
  | num (n) : Reordered (.num n) (.num n)
  | str (s) : Reordered (.str s) (.str s)
  | arr {xs ys : List Json} (length : xs.length = ys.length)
      (items : ∀ (i : Nat) x y, xs[i]? = some x → ys[i]? = some y → Reordered x y) :
      Reordered (.arr xs) (.arr ys)
  | obj {xs ys : List (String × Json)} (keys : (Keyed.keys xs).Perm (Keyed.keys ys))
      (members : ∀ k x y, xs.lookup k = some x → ys.lookup k = some y → Reordered x y) :
      Reordered (.obj xs) (.obj ys)

/-- At no path does the second override bring an object to where the first replaces the base. -/
def KindsAgree (first second : Json) : Prop :=
  ∀ path v members, first.atKeys? path = some v → second.atKeys? path = some (.obj members) →
    ¬ v.Replaces

@[simp] theorem Reordered.refl (j : Json) : Reordered j j := by
  induction j using inductionOn with
  | null => exact .null
  | bool b => exact .bool b
  | num n => exact .num n
  | str s => exact .str s
  | arr items ih =>
    refine .arr rfl fun i x y hx hy => ?_
    cases Option.some.inj (hx.symm.trans hy)
    exact ih x (List.mem_of_getElem? hx)
  | obj members ih =>
    refine .obj (List.Perm.refl _) fun k x y hx hy => ?_
    cases Option.some.inj (hx.symm.trans hy)
    exact ih (k, x) (Keyed.mem_of_lookup hx)

theorem Reordered.of_lookup {xs ys : List (String × Json)} (hx : (Keyed.keys xs).Nodup)
    (hy : (Keyed.keys ys).Nodup)
    (h : ∀ k, Option.Rel Reordered (xs.lookup k) (ys.lookup k)) :
    Reordered (.obj xs) (.obj ys) := by
  refine .obj ((List.perm_ext_iff_of_nodup hx hy).mpr fun k => ?_) fun k x y hxk hyk => ?_
  · have hk := h k
    rw [← Keyed.isSome_lookup, ← Keyed.isSome_lookup]
    generalize xs.lookup k = x at hk ⊢
    generalize ys.lookup k = y at hk ⊢
    cases hk <;> simp
  · have hk := h k
    rw [hxk, hyk] at hk
    cases hk with
    | some hr => exact hr

theorem kindsAgree_obj {ms ns : List (String × Json)} :
    KindsAgree (.obj ms) (.obj ns) ↔
      ∀ k v j, ms.lookup k = some v → ns.lookup k = some j → KindsAgree v j := by
  constructor
  · intro h k v j hv hj path w members hw hmembers
    refine h (k :: path) w members ?_ ?_
    · rw [atKeys?_obj_cons, hv]
      exact hw
    · rw [atKeys?_obj_cons, hj]
      exact hmembers
  · intro h path w members hw hmembers
    cases path with
    | nil =>
      cases Option.some.inj hw
      exact id
    | cons k path =>
      obtain ⟨v, hv, hw⟩ := Option.bind_eq_some_iff.mp hw
      obtain ⟨j, hj, hmembers⟩ := Option.bind_eq_some_iff.mp hmembers
      exact h k v j hv hj path w members hw hmembers

theorem kindsAgree_of_not_obj {first second : Json} (h : ∀ members, second ≠ .obj members) :
    KindsAgree first second := by
  intro path v members _ hmembers
  obtain ⟨ms, rfl⟩ := exists_obj_of_atKeys? hmembers
  exact absurd rfl (h ms)

theorem mergeAt_none_mergeAt (first second : Option Json) :
    mergeAt none (mergeAt first second) = mergeAt (mergeAt none first) second := by
  cases second with
  | none => rw [mergeAt_none, mergeAt_none]
  | some j =>
    cases first with
    | none =>
      by_cases hj : j = .null
      · simp [hj]
      · simp [mergeAt_none_some hj]
    | some v =>
      by_cases hv : v = .null
      · simp [hv, null_merge]
      · simp [mergeAt_none_some hv, mergeAt_none_some (merge_ne_null hv)]

theorem mergeAt_mergeAt_none (base second : Option Json) :
    mergeAt base (mergeAt none second) = mergeAt base second := by
  cases second with
  | none => rfl
  | some j =>
    by_cases hj : j = .null
    · cases base <;> simp [hj]
    · rw [mergeAt_none_some hj]

/-- At one key, the order of merging matters only where all three have something. -/
theorem mergeAt_mergeAt {base first second : Option Json}
    (h : ∀ b v j, base = some b → first = some v → second = some j →
      Reordered (b.merge (v.merge j)) ((b.merge v).merge j)) :
    Option.Rel Reordered (mergeAt base (mergeAt first second))
      (mergeAt (mergeAt base first) second) := by
  have hrefl : ∀ x : Option Json, Option.Rel Reordered x x := by
    intro x
    cases x with
    | none => exact .none
    | some j => exact .some (.refl j)
  cases base with
  | none => rw [mergeAt_none_mergeAt]; exact hrefl _
  | some b =>
    cases first with
    | none => rw [mergeAt_mergeAt_none, mergeAt_none]; exact hrefl _
    | some v =>
      cases second with
      | none => exact hrefl _
      | some j => exact .some (h b v j rfl rfl rfl)

theorem reordered_merge_merge {base first second : Json} (hbase : base.WellKeyed)
    (hfirst : first.WellKeyed) (hsecond : second.WellKeyed) (h : KindsAgree first second) :
    Reordered (base.merge (first.merge second)) ((base.merge first).merge second) := by
  induction second using inductionOn generalizing base first with
  | obj ns ih =>
    rcases replaces_or (j := first) with hrep | rfl | ⟨ms, rfl⟩
    · exact absurd hrep (h [] first ns rfl rfl)
    · rw [null_merge, merge_null]
      exact .refl _
    rcases obj_or base with ⟨own, rfl⟩ | hobj
    · have hown := (wellKeyed_obj.mp hbase).1
      have hms := (wellKeyed_obj.mp hfirst).1
      have hns := (wellKeyed_obj.mp hsecond).1
      have hboth : (Keyed.keys (mergeMembers ms ns)).Nodup := nodup_keys_mergeMembers hms hns
      simp only [merge_obj_obj]
      refine .of_lookup (nodup_keys_mergeMembers hown hboth)
        (nodup_keys_mergeMembers (nodup_keys_mergeMembers hown hms) hns) fun k => ?_
      rw [lookup_mergeMembers hboth, lookup_mergeMembers hns, lookup_mergeMembers hns,
        lookup_mergeMembers hms]
      refine mergeAt_mergeAt fun b v j hb hv hj => ?_
      exact ih (k, j) (Keyed.mem_of_lookup hj) (wellKeyed_of_lookup hbase hb)
        (wellKeyed_of_lookup hfirst hv) (wellKeyed_of_lookup hsecond hj)
        (kindsAgree_obj.mp h k v j hv hj)
    · rw [merge_obj_obj, merge_obj_of_not_obj hobj, merge_obj_of_not_obj hobj, merge_obj_obj]
      exact .refl _
  | _ => simp

end Gleaner.Json
