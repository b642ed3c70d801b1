import Gleaner.Proofs.Entity.Merge

/-!
Extraction of some fields of a group. What a field extracts to does not depend on the other fields
that are asked for: an entity of some fields is the entity of the whole group without the others
(`Page.entity_some`). So the fields of a group may be spread over several extractions of a page
(`Page.summary_projects`).
-/
namespace Gleaner

namespace OrderedMap

variable {α : Type}

/-- The part of a map under some names. -/
def only (m : OrderedMap α) (names : List String) : OrderedMap α :=
  ⟨m.entries.filter fun x => names.contains x.1,
    m.nodup.sublist (List.filter_sublist.map Prod.fst)⟩

theorem get?_only (m : OrderedMap α) (names : List String) (name : String) :
    (m.only names).get? name = if name ∈ names then m.get? name else none := by
  by_cases hname : name ∈ names
  · rw [if_pos hname]
    exact Keyed.lookup_filter_keys names.contains (by simpa using hname) m.entries
  · rw [if_neg hname]
    refine Keyed.lookup_eq_none.mpr fun hmem => hname ?_
    obtain ⟨x, hx, rfl⟩ := List.mem_map.mp hmem
    simpa using (List.mem_filter.mp hx).2

theorem only_only (m : OrderedMap α) (names : List String) :
    m.only (m.keys.filter fun name => names.contains name) = m.only names := by
  refine ext (List.filter_congr fun x hx => ?_)
  have hkey : x.1 ∈ m.keys := Keyed.mem_keys_of_mem hx
  by_cases hname : x.1 ∈ names <;> simp [hkey, hname]

end OrderedMap

namespace Entity

theorem get?_merge (e other : Entity) (name : String) :
    (e.merge other).get? name = (other.get? name).or (e.get? name) := by
  obtain ⟨entries, hn⟩ := other
  simp only [merge, OrderedMap.insertAll, OrderedMap.get?]
  induction entries generalizing e with
  | nil => rfl
  | cons x entries ih =>
    obtain ⟨hx, hrest⟩ := List.nodup_cons.mp hn
    have hinsert := OrderedMap.get?_insert e x.1 name x.2
    rw [List.foldl_cons, ih (e.insert x.1 x.2) hrest, Keyed.lookup_cons_eq]
    simp only [OrderedMap.get?] at hinsert
    rw [hinsert]
    by_cases hname : name = x.1
    · have hnone : entries.lookup name = none := Keyed.lookup_eq_none.mpr (hname ▸ hx)
      simp [hname ▸ hnone, hname]
    · simp [hname]

/-- Whether a way to join entities takes the values of both sides where these do not contradict each
other. -/
def Joins (join : Entity → Entity → Entity) : Prop :=
  ∀ (e other : Entity) (name : String),
    e.get? name = none ∨ other.get? name = none ∨ other.get? name = e.get? name →
      (join e other).get? name = (other.get? name).or (e.get? name)

theorem joins_merge : Joins merge := fun e other name _ => get?_merge e other name

theorem joins_mergeFilled : Joins mergeFilled := by
  intro e other name h
  rw [get?_mergeFilled]
  cases hother : other.get? name with
  | none => rfl
  | some value =>
    rw [hother] at h
    rcases h with hnone | hnone | hsame
    · rw [hnone]
      rfl
    · cases hnone
    · rw [← hsame]
      cases hz : value.isZero <;> simp [filling, hz]

/-- A part of an entity joined to what agrees with it. -/
theorem get?_join_only {join : Entity → Entity → Entity} (hjoin : Joins join) {whole e : Entity}
    (he : ∀ name, e.get? name = none ∨ e.get? name = whole.get? name) (names : List String)
    (name : String) :
    (join e (whole.only names)).get? name =
      if name ∈ names then whole.get? name else e.get? name := by
  have hpart := OrderedMap.get?_only whole names name
  have hagree : e.get? name = none ∨ (whole.only names).get? name = none ∨
      (whole.only names).get? name = e.get? name := by
    rcases he name with hnone | hsame
    · exact Or.inl hnone
    · by_cases hname : name ∈ names
      · exact Or.inr (Or.inr (by rw [hpart, if_pos hname, hsame]))
      · exact Or.inr (Or.inl (by rw [hpart, if_neg hname]))
  rw [hjoin e (whole.only names) name hagree, hpart]
  by_cases hname : name ∈ names
  · rcases he name with hnone | hsame
    · simp [hname, hnone]
    · simp [hname, hsame]
  · simp [hname]

/-- Parts of an entity joined one after another to what agrees with it. -/
theorem get?_foldl_only {join : Entity → Entity → Entity} (hjoin : Joins join) (whole : Entity)
    (parts : List (List String)) {e : Entity}
    (he : ∀ name, e.get? name = none ∨ e.get? name = whole.get? name) (name : String) :
    ((parts.map whole.only).foldl join e).get? name =
      if name ∈ parts.flatten then whole.get? name else e.get? name := by
  induction parts generalizing e with
  | nil => simp
  | cons names parts ih =>
    have hjoined := get?_join_only hjoin he names
    have hagrees : ∀ name, (join e (whole.only names)).get? name = none ∨
        (join e (whole.only names)).get? name = whole.get? name := by
      intro name
      rw [hjoined]
      by_cases hname : name ∈ names
      · simp [hname]
      · simpa [hname] using he name
    rw [List.map_cons, List.foldl_cons, ih hagrees, hjoined, List.flatten_cons]
    by_cases hname : name ∈ names <;> simp [hname]

end Entity

namespace Page

theorem entries_entity_none (source : Source) (group : FieldGroup) (filters : FilterRegistry)
    (links : String → String) :
    (entity source group none filters links).entries =
      group.entries.map fun f => (f.1, field source filters links f.1 f.2) := by
  have hall : (group.entries.filter fun f =>
      (none : Option (List String)).all fun names => names.contains f.1) = group.entries :=
    List.filter_eq_self.mpr fun f _ => rfl
  rw [entries_entity, hall]

theorem keys_entity_none (source : Source) (group : FieldGroup) (filters : FilterRegistry)
    (links : String → String) : (entity source group none filters links).keys = group.keys := by
  rw [OrderedMap.keys, entries_entity_none]
  simp [Keyed.keys, OrderedMap.keys, Function.comp_def]

/-- What a field extracts to does not depend on the other fields that are asked for. -/
theorem entity_some (source : Source) (group : FieldGroup) (names : List String)
    (filters : FilterRegistry) (links : String → String) :
    entity source group (some names) filters links =
      (entity source group none filters links).only names := by
  apply OrderedMap.ext
  simp only [OrderedMap.only, entries_entity_none, List.filter_map]
  exact entries_entity source group (some names) filters links

/-- Of a page, some fields of a group are what extraction of the whole group gives, without the
other fields: in the order of the group, whatever the order of the names, those that are repeated
and those that are no fields. Extractions that share the fields of a group out among them find
together, however they are merged, each field with the value that it has in the whole. -/
theorem summary_projects (body : String) (format : PageFormat) (group : FieldGroup)
    (filters : FilterRegistry) (links : String → String) :
    let whole := summary body format group none filters links
    let part := fun names => summary body format group (some names) filters links
    whole.keys = group.keys ∧
    (∀ names, (part names).entries = whole.entries.filter fun f => names.contains f.1) ∧
    (∀ names, part (group.keys.filter fun name => names.contains name) = part names) ∧
    ∀ (parts : List (List String)) (name : String),
      let value := if name ∈ parts.flatten then whole.get? name else none
      ((parts.map part).foldl Entity.merge OrderedMap.empty).get? name = value ∧
      ((parts.map part).foldl Entity.mergeFilled OrderedMap.empty).get? name = value := by
  intro whole part
  have hpart : part = whole.only :=
    funext fun names => entity_some (Page.whole body format) group names filters links
  have hkeys : whole.keys = group.keys := keys_entity_none _ group filters links
  have hnone : ∀ name, (OrderedMap.empty : Entity).get? name = none ∨
      (OrderedMap.empty : Entity).get? name = whole.get? name := fun name => Or.inl rfl
  refine ⟨hkeys, fun names => by rw [hpart]; rfl, fun names => ?_, fun parts name => ?_⟩
  · rw [hpart, ← hkeys, OrderedMap.only_only]
  · rw [hpart]
    exact ⟨Entity.get?_foldl_only Entity.joins_merge whole parts hnone name,
      Entity.get?_foldl_only Entity.joins_mergeFilled whole parts hnone name⟩

end Page

end Gleaner
