import Gleaner.Entity
import Gleaner.Proofs.Json.Stable
import Gleaner.Proofs.Json.Text

/-!
Entities written as JSON and read back. The text is always that of an object with the names of the
fields in their order; it reads as an entity just when every number in it is finite
(`Entity.readable_iff`).
-/
namespace Gleaner

namespace FieldValue

/-- A text, or a number that JSON can write. -/
def Finite : FieldValue → Prop
  | .text _ => True
  | .number x => x.isFinite = true

/-- The same text, or a number for a number. -/
def Alike : FieldValue → FieldValue → Prop
  | .text s, .text t => s = t
  | .number _, .number _ => True
  | _, _ => False

/-- What a value is read as, if it is read at all. -/
structure Reading (v : FieldValue) (j : Json) : Prop where
  readsAs : Json.ReadsAs (Json.compactChars v.toJson) j
  wellKeyed : j.WellKeyed
  alike : ∀ w, ofJson? j = some w → v.Alike w
  isSome : (ofJson? j).isSome = true ↔ v.Finite

theorem exists_reading (v : FieldValue) : ∃ j, v.Reading j := by
  cases v with
  | text s =>
    refine ⟨.str s, Json.readsAs_str s, trivial, fun w h => ?_, iff_of_true rfl trivial⟩
    cases Option.some.inj h
    exact rfl
  | number x =>
    by_cases hx : x.isFinite = true
    · obtain ⟨y, hy⟩ := Json.readsAs_real hx
      have hnumber : (x.isNaN || x.isInf) = false := by
        simpa only [Decimal.isFinite_eq, Bool.not_eq_true'] using hx
      refine ⟨.num (.real y), ?_, trivial, fun w h => ?_, iff_of_true rfl hx⟩
      · rwa [toJson, hnumber, if_neg Bool.false_ne_true]
      · cases Option.some.inj h
        trivial
    · have hnumber : (x.isNaN || x.isInf) = true := by
        simpa only [Decimal.isFinite_eq, Bool.not_eq_true', Bool.not_eq_false] using hx
      refine ⟨.null, ?_, trivial, fun w h => (nomatch h), iff_of_false Bool.false_ne_true hx⟩
      rw [toJson, hnumber, if_pos rfl]
      exact Json.readsAs_null

end FieldValue

namespace Entity

/-- The entity that is read back has the same fields in the same order, texts as they were and
numbers for numbers. -/
def Readable (e : Entity) : Prop :=
  ∃ e', (Json.parse? e.toJson.compact).bind ofJson? = some e' ∧
    List.Forall₂ (fun x y => x.1 = y.1 ∧ x.2.Alike y.2) e.entries e'.entries

/-- Each member is read as the value of its field. -/
def Readings (xs : List (String × FieldValue)) (rs : List (String × Json)) : Prop :=
  List.Forall₂ (fun x r => x.1 = r.1 ∧ x.2.Reading r.2) xs rs

theorem exists_readings (xs : List (String × FieldValue)) : ∃ rs, Readings xs rs := by
  induction xs with
  | nil => exact ⟨[], .nil⟩
  | cons x xs ih =>
    obtain ⟨j, hj⟩ := x.2.exists_reading
    obtain ⟨rs, hrs⟩ := ih
    exact ⟨(x.1, j) :: rs, .cons ⟨rfl, hj⟩ hrs⟩

theorem Readings.wellKeyed {xs : List (String × FieldValue)} {rs : List (String × Json)}
    (h : Readings xs rs) : ∀ r ∈ rs, r.2.WellKeyed := by
  induction h with
  | nil => exact fun _ h => absurd h List.not_mem_nil
  | cons hx _ ih => exact List.forall_mem_cons.mpr ⟨hx.2.wellKeyed, ih⟩

theorem Readings.membersRead {xs : List (String × FieldValue)} {rs : List (String × Json)}
    (h : Readings xs rs) : Json.MembersRead (xs.map fun x => (x.1, x.2.toJson)) rs := by
  induction h with
  | nil => exact .nil
  | cons hx _ ih => exact .cons ⟨hx.1, hx.2.readsAs⟩ ih

/-- The printed entity is an object with the same names. -/
theorem exists_parse? (e : Entity) : ∃ members, Readings e.entries members ∧
    Json.parse? e.toJson.compact = some (.obj members) ∧ Keyed.keys members = e.keys := by
  obtain ⟨members, h⟩ := exists_readings e.entries
  have hread := h.membersRead
  have hkeys : Keyed.keys members = e.keys := by
    rw [Json.keys_of_membersRead hread, Keyed.keys_map]
    rfl
  refine ⟨members, h, Json.parse?_compact_obj hread (Json.wellKeyed_obj.mpr ⟨?_, h.wellKeyed⟩),
    hkeys⟩
  rw [hkeys]
  exact e.nodup

/-- The members of finite values are read, each as its own. -/
theorem Readings.exists_mapM {xs : List (String × FieldValue)} {rs : List (String × Json)}
    (h : Readings xs rs) (hfinite : ∀ x ∈ xs, x.2.Finite) :
    ∃ ys, (rs.mapM fun m => (FieldValue.ofJson? m.2).map fun v => (m.1, v)) = some ys ∧
      List.Forall₂ (fun x y => x.1 = y.1 ∧ x.2.Alike y.2) xs ys := by
  induction h with
  | nil => exact ⟨[], rfl, .nil⟩
  | @cons x r xs rs hx _ ih =>
    rw [List.forall_mem_cons] at hfinite
    obtain ⟨w, hw⟩ := Option.isSome_iff_exists.mp (hx.2.isSome.mpr hfinite.1)
    obtain ⟨ys, hys, halike⟩ := ih hfinite.2
    exact ⟨(r.1, w) :: ys, by simp [List.mapM_cons, hw, hys], .cons ⟨hx.1, hx.2.alike w hw⟩ halike⟩

theorem Readings.finite_of_mapM {xs : List (String × FieldValue)} {rs : List (String × Json)}
    (h : Readings xs rs) {ys : List (String × FieldValue)}
    (hys : (rs.mapM fun m => (FieldValue.ofJson? m.2).map fun v => (m.1, v)) = some ys) :
    ∀ x ∈ xs, x.2.Finite := by
  induction h generalizing ys with
  | nil => exact fun _ h => absurd h List.not_mem_nil
  | @cons x r xs rs hx _ ih =>
    rw [List.mapM_cons] at hys
    obtain ⟨y, hy, hys⟩ := Option.bind_eq_some_iff.mp hys
    obtain ⟨ys, hrest, -⟩ := Option.bind_eq_some_iff.mp hys
    obtain ⟨w, hw, -⟩ := Option.map_eq_some_iff.mp hy
    exact List.forall_mem_cons.mpr
      ⟨hx.2.isSome.mp (Option.isSome_iff_exists.mpr ⟨w, hw⟩), ih hrest⟩

/-- An entity reads back just when JSON can write all its numbers. -/
theorem readable_iff (e : Entity) : e.Readable ↔ ∀ x ∈ e.entries, x.2.Finite := by
  obtain ⟨members, hread, hparse, hkeys⟩ := exists_parse? e
  rw [Readable, hparse]
  constructor
  · rintro ⟨e', he', -⟩
    obtain ⟨ys, hys, -⟩ := Option.map_eq_some_iff.mp he'
    exact hread.finite_of_mapM hys
  · intro hfinite
    obtain ⟨ys, hys, halike⟩ := hread.exists_mapM hfinite
    have hnodup : (Keyed.keys ys).Nodup := by
      rw [(Json.members_of_mapM hys).1, hkeys]
      exact e.nodup
    refine ⟨OrderedMap.ofList ys, Option.map_eq_some_iff.mpr ⟨ys, hys, rfl⟩, ?_⟩
    rwa [OrderedMap.entries_ofList hnodup]

/-- Otherwise nothing is read. -/
theorem read_eq_none {e : Entity} (h : ¬ e.Readable) :
    (Json.parse? e.toJson.compact).bind ofJson? = none := by
  rw [readable_iff] at h
  obtain ⟨members, hread, hparse, -⟩ := exists_parse? e
  rw [hparse, Option.bind_some, Option.eq_none_iff_forall_ne_some]
  intro e' he'
  obtain ⟨ys, hys, -⟩ := Option.map_eq_some_iff.mp he'
  exact h (hread.finite_of_mapM hys)

end Entity

end Gleaner
