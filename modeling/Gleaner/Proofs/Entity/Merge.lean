import Gleaner.Proofs.Entity
import Mathlib.Data.List.Induction

/-!
Entities merged one after another. A field keeps the last value that is no zero, and the last of all
when every value is one; the fields stand in the order in which they first occur. So merging is
associative, with the entity without fields on either side of it as a unit (`merges_settle`).
-/
namespace Gleaner

theorem OrderedMap.ext_get? {α : Type} {m n : OrderedMap α} (hkeys : m.keys = n.keys)
    (hget : ∀ name, m.get? name = n.get? name) : m = n :=
  OrderedMap.ext (Keyed.eq_of_lookup hkeys m.nodup hget)

namespace Entity

/-- Of the values that were found for a field, the last that is no zero, else the last. -/
def settled (values : List FieldValue) : Option FieldValue :=
  (values.filter fun v => !v.isZero).getLast?.or values.getLast?

/-- What counts of two values, either of which may be missing. -/
def join (old new : Option FieldValue) : Option FieldValue :=
  match new with
  | some value => some (filling old value)
  | none => old

theorem get?_mergeFilled_eq_join (e other : Entity) (name : String) :
    (e.mergeFilled other).get? name = join (e.get? name) (other.get? name) :=
  get?_mergeFilled e other name

theorem join_none (old : Option FieldValue) : join old none = old := rfl

theorem none_join (new : Option FieldValue) : join none new = new := by
  cases new <;> rfl

theorem filling_of_not_zero {old : Option FieldValue} {new : FieldValue}
    (h : new.isZero = false) : filling old new = new := by
  cases old <;> simp [filling, h]

theorem filling_of_zero {old new : FieldValue} (h : new.isZero = true) :
    filling (some old) new = if old.isZero then new else old := by
  cases ho : old.isZero <;> simp [filling, h, ho]

theorem join_assoc (x y z : Option FieldValue) : join (join x y) z = join x (join y z) := by
  cases z with
  | none => rfl
  | some z =>
    cases y with
    | none => simp only [join_none, none_join]
    | some y =>
      cases x with
      | none => simp only [none_join]
      | some x =>
        simp only [join, Option.some.injEq]
        -- Whichever of the three is filled and stands last counts on both sides.
        by_cases hz : z.isZero = true
        · by_cases hy : y.isZero = true
          · rw [filling_of_zero hy, filling_of_zero hz, filling_of_zero hz, if_pos hy,
              filling_of_zero hz]
            by_cases hx : x.isZero = true <;> simp [hx, hy]
          · have hy : y.isZero = false := by simpa using hy
            rw [filling_of_not_zero hy, filling_of_zero hz, hy]
            simp [filling_of_not_zero hy]
        · have hz : z.isZero = false := by simpa using hz
          rw [filling_of_not_zero hz, filling_of_not_zero hz, filling_of_not_zero hz]

theorem join_self (old new : Option FieldValue) : join (join old new) new = join old new := by
  rw [join_assoc]
  cases new with
  | none => rfl
  | some new =>
    have hself : join (some new) (some new) = some new := by
      cases hz : new.isZero <;> simp [join, filling, hz]
    rw [hself]

theorem settled_concat (values : List FieldValue) (new : FieldValue) :
    settled (values ++ [new]) = join (settled values) (some new) := by
  unfold settled join
  rw [List.filter_append, List.getLast?_concat]
  cases hn : new.isZero with
  | false => simp [hn, filling_of_not_zero hn]
  | true =>
    cases hl : (values.filter fun v => !v.isZero).getLast? with
    | none =>
      -- All that was found before is zero, too.
      cases hv : values.getLast? with
      | none => simp [hn, hl, filling]
      | some v =>
        have hz : v.isZero = true := by
          have hmem := List.mem_of_getLast? hv
          simpa using List.filter_eq_nil_iff.mp (List.getLast?_eq_none_iff.mp hl) v hmem
        simp [hn, hl, filling, hz]
    | some v =>
      have hfilled : v.isZero = false := by
        simpa using (List.mem_filter.mp (List.mem_of_getLast? hl)).2
      simp [hn, hl, filling, hfilled]

theorem get?_foldl_mergeFilled (ps : List Entity) (name : String) :
    (ps.foldl mergeFilled OrderedMap.empty).get? name =
      settled (ps.filterMap fun p => p.get? name) := by
  induction ps using List.reverseRecOn with
  | nil => rfl
  | append_singleton ps p ih =>
    rw [List.foldl_append, List.foldl_cons, List.foldl_nil, get?_mergeFilled_eq_join, ih,
      List.filterMap_append]
    cases hp : p.get? name with
    | none => simp [hp, join_none]
    | some v => simp [hp, settled_concat]

/-! ### The order of the fields -/

theorem keys_fill (e : Entity) (name : String) (value : FieldValue) :
    (e.fill name value).keys = if name ∈ e.keys then e.keys else e.keys ++ [name] := by
  unfold fill
  split
  next old hold =>
    have hmem : name ∈ e.keys := OrderedMap.mem_keys_iff.mpr ⟨old, hold⟩
    rw [if_pos hmem]
    split
    · rfl
    · rw [OrderedMap.keys_insert, if_pos hmem]
  next => exact OrderedMap.keys_insert e name value

/-- What an entity lacks comes behind its own fields. -/
theorem keys_mergeFilled (e other : Entity) :
    (e.mergeFilled other).keys = e.keys ++ other.keys.filter fun name => !e.keys.contains name := by
  obtain ⟨entries, hn⟩ := other
  simp only [mergeFilled, OrderedMap.keys]
  induction entries generalizing e with
  | nil => simp
  | cons x entries ih =>
    obtain ⟨hx, hrest⟩ := List.nodup_cons.mp hn
    have hfill := keys_fill e x.1 x.2
    rw [List.foldl_cons, ih (e.fill x.1 x.2) hrest, Keyed.keys_cons]
    by_cases hmem : x.1 ∈ e.keys
    · rw [if_pos hmem] at hfill
      simp only [OrderedMap.keys] at hfill hmem
      simp [hfill, hmem]
    · -- The name does not come again, so that it makes no difference to the names behind it.
      have hrest : (Keyed.keys entries).filter
            (fun name => !(Keyed.keys e.entries ++ [x.1]).contains name) =
          (Keyed.keys entries).filter fun name => !(Keyed.keys e.entries).contains name := by
        refine List.filter_congr fun name hname => ?_
        have hne : name ≠ x.1 := by
          rintro rfl
          exact hx hname
        simp [hne]
      rw [if_neg hmem] at hfill
      simp only [OrderedMap.keys] at hfill hmem
      rw [hfill, hrest, List.append_assoc]
      simp [hmem]

theorem eraseDups_of_nodup {names : List String} (h : names.Nodup) : names.eraseDups = names := by
  induction names with
  | nil => rfl
  | cons name names ih =>
    obtain ⟨hname, hrest⟩ := List.nodup_cons.mp h
    have hfilter : (names.filter fun other => !other == name) = names := by
      refine List.filter_eq_self.mpr fun other hother => ?_
      have hne : other ≠ name := by
        rintro rfl
        exact hname hother
      simpa using hne
    rw [List.eraseDups_cons, hfilter, ih hrest]

/-- Names stand in the order in which they occur first. -/
theorem keys_foldl_mergeFilled (ps : List Entity) :
    (ps.foldl mergeFilled OrderedMap.empty).keys = (ps.flatMap OrderedMap.keys).eraseDups := by
  induction ps using List.reverseRecOn with
  | nil => rfl
  | append_singleton ps p ih =>
    have hnew : (p.keys.removeAll (ps.flatMap OrderedMap.keys)).Nodup :=
      p.nodup.sublist List.filter_sublist
    rw [List.foldl_append, List.foldl_cons, List.foldl_nil, keys_mergeFilled, ih,
      List.flatMap_append, List.eraseDups_append, List.flatMap_singleton, eraseDups_of_nodup hnew]
    simp [List.removeAll]

/-! ### Laws -/

theorem mergeFilled_assoc (a b c : Entity) :
    (a.mergeFilled b).mergeFilled c = a.mergeFilled (b.mergeFilled c) := by
  refine OrderedMap.ext_get? ?_ fun name => ?_
  · simp only [keys_mergeFilled, List.filter_append, List.filter_filter, List.append_assoc]
    congr 2
    refine List.filter_congr fun name _ => ?_
    by_cases ha : name ∈ a.keys <;> by_cases hb : name ∈ b.keys <;> simp [ha, hb]
  · simp only [get?_mergeFilled_eq_join, join_assoc]

theorem empty_mergeFilled (e : Entity) : mergeFilled OrderedMap.empty e = e := by
  refine OrderedMap.ext_get? ?_ fun name => ?_
  · rw [keys_mergeFilled]
    simp [OrderedMap.keys, OrderedMap.empty]
  · rw [get?_mergeFilled_eq_join]
    exact none_join _

theorem mergeFilled_mergeFilled_self (a e : Entity) :
    (a.mergeFilled e).mergeFilled e = a.mergeFilled e := by
  refine OrderedMap.ext_get? ?_ fun name => ?_
  · have hnone : (e.keys.filter fun name => !(a.mergeFilled e).keys.contains name) = [] := by
      refine List.filter_eq_nil_iff.mpr fun name hname => ?_
      simpa using mem_keys_mergeFilled.mpr (Or.inr hname)
    rw [keys_mergeFilled (a.mergeFilled e) e, hnone, List.append_nil]
  · simp only [get?_mergeFilled_eq_join, join_self]

/-- Entities that are merged one after another have the fields of all of them, in the order in which
they occur first, each with the last of its values that is filled, or with the last value when none
is. So merging is associative, nothing is changed by the entity without fields on either side, and
nothing by merging an entity a second time. -/
theorem merges_settle :
    (∀ ps : List Entity,
      let merged := ps.foldl mergeFilled OrderedMap.empty
      merged.keys = (ps.flatMap OrderedMap.keys).eraseDups ∧
      ∀ name, merged.get? name =
        (((ps.filterMap fun p => p.get? name).filter fun v => !v.isZero).getLast?.or
          (ps.filterMap fun p => p.get? name).getLast?)) ∧
    (∀ a b c : Entity, (a.mergeFilled b).mergeFilled c = a.mergeFilled (b.mergeFilled c)) ∧
    (∀ e : Entity, mergeFilled OrderedMap.empty e = e ∧ mergeFilled e OrderedMap.empty = e) ∧
    ∀ a e : Entity, (a.mergeFilled e).mergeFilled e = a.mergeFilled e :=
  ⟨fun ps => ⟨keys_foldl_mergeFilled ps, get?_foldl_mergeFilled ps⟩, mergeFilled_assoc,
    fun e => ⟨empty_mergeFilled e, rfl⟩, mergeFilled_mergeFilled_self⟩

end Entity

end Gleaner
