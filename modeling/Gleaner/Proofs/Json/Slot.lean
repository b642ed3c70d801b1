import Gleaner.Proofs.Json.Stable

/-!
Records as lists of slots, one for each field. A record is stable when each of its slots is
(`Layout.stable`), and the four kinds of field are when their values are.
-/
namespace Gleaner.Json

variable {α ρ : Type}

def WellKeyedAt (x : Option Json) : Prop := ∀ j, x = some j → j.WellKeyed

/-- `Over` for what stands under one key. -/
def OverAt (put : ρ → Option Json) (o x : Option Json) : Prop :=
  x = o ∨ ∃ u, WellKeyedAt (put u) ∧ x = mergeAt (put u) o

/-- A field of a record: which records it may have been read for, and what is written of them. -/
structure Slot (ρ : Type) where
  name : String
  Reads : Option Json → ρ → Prop
  put : ρ → Option Json

structure Slot.Stable (s : Slot ρ) : Prop where
  reads_put : ∀ v, WellKeyedAt (s.put v) → s.Reads (s.put v) v
  wellKeyed : ∀ x v, s.Reads x v → WellKeyedAt (s.put v)
  stable : ∀ o x v, WellKeyedAt o → OverAt s.put o x → s.Reads x v →
    s.Reads (mergeAt (s.put v) o) v

/-! ### Kinds of field -/

section
variable (name : String) (read? : Json → Option α) (write : α → Json)

def Slot.required (get : ρ → α) : Slot ρ :=
  ⟨name, fun x v => Json.required read? x = some (get v), fun v => some (write (get v))⟩

def Slot.withDefault (value : α) (get : ρ → α) : Slot ρ :=
  ⟨name, fun x v => Json.withDefault read? value x = some (get v), fun v => some (write (get v))⟩

/-- A field that is left out when it has its default. -/
def Slot.omitted (value : α) (isEmpty : α → Bool) (get : ρ → α) : Slot ρ :=
  ⟨name, fun x v => Json.withDefault read? value x = some (get v),
    fun v => omitIf (isEmpty (get v)) (write (get v))⟩

def Slot.optional (get : ρ → Option α) : Slot ρ :=
  ⟨name, fun x v => Json.optional read? x = some (get v), fun v => (get v).map write⟩

end

section
variable {name : String} {read? : Json → Option α} {write : α → Json}

theorem wellKeyedAt_some {j : Json} : WellKeyedAt (some j) ↔ j.WellKeyed :=
  ⟨fun h => h j rfl, fun h _ e => Option.some.inj e ▸ h⟩

theorem overAt_none {put : ρ → Option Json} {o : Option Json} (h : OverAt put o none) :
    o = none ∨ o = some .null := by
  cases o with
  | none => exact Or.inl rfl
  | some o =>
    right
    rcases h with h | ⟨u, _, h⟩
    · simp at h
    · by_cases ho : o = .null
      · rw [ho]
      · cases hu : put u <;> simp [hu, mergeAt_none_some ho] at h

/-- Where what stands under a key comes from, when values are written there. -/
theorem overAt_some {put : ρ → Option Json} (hput : ∀ u j, put u = some j → ∃ a, write a = j)
    {o : Option Json} {y : Json} (h : OverAt put o (some y)) :
    o = some y ∨ ∃ a, (write a).WellKeyed ∧ mergeAt (some (write a)) o = some y := by
  rcases h with h | ⟨u, hu, h⟩
  · exact Or.inl h.symm
  · cases hp : put u with
    | none =>
      rw [hp] at h
      rcases mergeAt_eq_some h.symm with ⟨hn, _⟩ | ⟨_, ho, _⟩ | ⟨_, _, hn, _⟩
      · simp at hn
      · exact Or.inl ho
      · simp at hn
    | some j =>
      obtain ⟨a, rfl⟩ := hput u j hp
      exact Or.inr ⟨a, hu _ hp, by rw [h, hp]⟩

/-- What was read under a key is read there again. -/
theorem Stable.at_key (h : Stable read? write) {put : ρ → Option Json}
    (hput : ∀ u j, put u = some j → ∃ a, write a = j) {o : Option Json} {y : Json} {w : α}
    (ho : WellKeyedAt o) (hx : OverAt put o (some y)) (hr : read? y = some w) :
    ∃ j, mergeAt (some (write w)) o = some j ∧ read? j = some w := by
  have hy := overAt_some hput hx
  cases o with
  | none => exact ⟨write w, mergeAt_none _, h.read_write_of_read hr⟩
  | some o =>
    refine ⟨_, mergeAt_some_some _ _, h.stable o y w (ho o rfl) ?_ hr⟩
    rcases hy with hy | ⟨a, ha, hy⟩
    · exact Or.inl (Option.some.inj hy).symm
    · exact Or.inr ⟨a, ha, (Option.some.inj hy).symm⟩

theorem Stable.required (h : Stable read? write) (get : ρ → α) :
    (Slot.required name read? write get).Stable where
  reads_put v hv := h.read_write _ (wellKeyedAt_some.mp hv)
  wellKeyed x v hr := by
    obtain ⟨y, _, hy⟩ := Option.bind_eq_some_iff.mp hr
    exact wellKeyedAt_some.mpr (h.wellKeyed y _ hy)
  stable := by
    intro o x v ho hx hr
    obtain ⟨y, rfl, hy⟩ := Option.bind_eq_some_iff.mp hr
    obtain ⟨j, hj, hjr⟩ := h.at_key (fun u _ he => ⟨get u, Option.some.inj he⟩) ho hx hy
    change Json.required read? (mergeAt (some (write (get v))) o) = some (get v)
    rw [hj]
    exact hjr

/-- The default has to be something that is also read of a document. -/
theorem Stable.withDefault (h : Stable read? write) {value : α} (j : Json)
    (hd : read? j = some value) (get : ρ → α) :
    (Slot.withDefault name read? write value get).Stable where
  reads_put v hv := h.read_write _ (wellKeyedAt_some.mp hv)
  wellKeyed x v hr := by
    apply wellKeyedAt_some.mpr
    cases x with
    | none =>
      have he : value = get v := Option.some.inj hr
      exact he ▸ h.wellKeyed j value hd
    | some y => exact h.wellKeyed y _ hr
  stable := by
    intro o x v ho hx hr
    change Json.withDefault read? value (mergeAt (some (write (get v))) o) = some (get v)
    cases x with
    | some y =>
      obtain ⟨j, hj, hjr⟩ := h.at_key (fun u _ he => ⟨get u, Option.some.inj he⟩) ho hx hr
      rw [hj]
      exact hjr
    | none =>
      have he : value = get v := Option.some.inj hr
      have hread : read? (write (get v)) = some (get v) := he ▸ h.read_write_of_read hd
      rcases overAt_none hx with rfl | rfl
      · exact hread
      · rwa [mergeAt_some_some, merge_null]

theorem omitIf_eq_some {absent : Bool} {value j : Json} :
    omitIf absent value = some j ↔ absent = false ∧ value = j := by
  cases absent <;> simp [omitIf]

/-- Where the default was read, overrides alone read as the default too. -/
theorem withDefault_of_over {value : α} {put : ρ → Option Json} {o x : Option Json}
    (hclear : ∀ u j i, put u = some j → j.WellKeyed → o = some i → i ≠ .null →
      read? (j.merge i) = some value → read? i = some value)
    (hx : OverAt put o x) (hr : Json.withDefault read? value x = some value) :
    Json.withDefault read? value (mergeAt none o) = some value := by
  cases o with
  | none => rfl
  | some o =>
    by_cases hnull : o = .null
    · rw [hnull, mergeAt_none_null]
      rfl
    · rw [mergeAt_none_some hnull]
      rcases hx with rfl | ⟨u, hu, rfl⟩
      · exact hr
      · cases hp : put u with
        | none => rwa [hp, mergeAt_none_some hnull] at hr
        | some j =>
          rw [hp, mergeAt_some_some] at hr
          exact hclear u j o hp (hu j hp) rfl hnull hr

theorem Stable.omitted (h : Stable read? write) {value : α} {isEmpty : α → Bool}
    (hempty : ∀ a, isEmpty a = true ↔ a = value)
    (hclear : ∀ a o, (write a).WellKeyed → o.WellKeyed → isEmpty a = false → o ≠ .null →
      read? ((write a).merge o) = some value → read? o = some value) (get : ρ → α) :
    (Slot.omitted name read? write value isEmpty get).Stable where
  reads_put v hv := by
    change Json.withDefault read? value (omitIf (isEmpty (get v)) (write (get v))) = some (get v)
    cases he : isEmpty (get v) with
    | true => exact congrArg some ((hempty _).mp he).symm
    | false => exact h.read_write _ (hv _ (omitIf_eq_some.mpr ⟨he, rfl⟩))
  wellKeyed x v hr := by
    intro j hj
    obtain ⟨hne, rfl⟩ := omitIf_eq_some.mp hj
    cases x with
    | some y => exact h.wellKeyed y _ hr
    | none =>
      have hd := (hempty (get v)).mpr (Option.some.inj hr).symm
      simp [hd] at hne
  stable := by
    intro o x v ho hx hr
    change Json.withDefault read? value
      (mergeAt (omitIf (isEmpty (get v)) (write (get v))) o) = some (get v)
    cases he : isEmpty (get v) with
    | false =>
      cases x with
      | none =>
        have hd := (hempty (get v)).mpr (Option.some.inj hr).symm
        simp [hd] at he
      | some y =>
        obtain ⟨j, hj, hjr⟩ :=
          h.at_key (fun u _ he => ⟨get u, (omitIf_eq_some.mp he).2⟩) ho hx hr
        simp only [omitIf, Bool.false_eq_true, ↓reduceIte, hj]
        exact hjr
    | true =>
      have hd := (hempty (get v)).mp he
      change Json.withDefault read? value x = some (get v) at hr
      rw [hd] at hr ⊢
      simp only [omitIf, ↓reduceIte]
      refine withDefault_of_over (fun u j i hj hw hi => ?_) hx hr
      obtain ⟨hue, rfl⟩ := omitIf_eq_some.mp hj
      exact hclear (get u) i hw (ho i hi) hue

theorem Faithful.omittedArray (h : Faithful read? write) (get : ρ → List α) :
    (Slot.omitted name (arrayOf? read?) (fun vs => .arr (vs.map write)) [] List.isEmpty
      get).Stable := by
  refine h.array.omitted (fun vs => List.isEmpty_iff) ?_ get
  intro vs o _ _ _ hnull hr
  rwa [merge_of_not_obj (by simp) hnull] at hr

theorem Stable.omittedMap (h : Stable read? write) (get : ρ → OrderedMap α) :
    (Slot.omitted name (mapOf? read?) (ofMap write) .empty OrderedMap.isEmpty get).Stable := by
  refine h.map.omitted ?_ ?_ get
  · intro m
    constructor
    · intro he
      exact OrderedMap.ext (List.isEmpty_iff.mp he)
    · rintro rfl
      rfl
  · intro m o hm ho hne hnull hr
    cases o with
    | null => exact absurd rfl hnull
    | obj os =>
      have hos := (wellKeyed_obj.mp ho).1
      have hown := (wellKeyed_obj.mp hm).1
      rw [ofMap, merge_obj_obj, mapOf?_obj (nodup_keys_mergeMembers hown hos),
        keys_mergeMembers hos] at hr
      -- A member of the map stays, so what is read is not empty.
      have hnil := (List.append_eq_nil_iff.mp hr.1.symm).1
      rw [Keyed.keys_map] at hnil
      have he : m.isEmpty = true := List.isEmpty_iff.mpr (List.map_eq_nil_iff.mp hnil)
      simp [he] at hne
    | _ => simpa using hr

theorem optional_of_ne_null {y : Json} (hy : y ≠ .null) :
    Json.optional read? (some y) = (read? y).map some := by
  cases y <;> first | rfl | exact absurd rfl hy

theorem optional_eq_some_some {x : Option Json} {w : α} (hnull : read? .null = none) :
    Json.optional read? x = some (some w) ↔ ∃ y, x = some y ∧ read? y = some w := by
  cases x with
  | none => simp [Json.optional]
  | some y =>
    by_cases hy : y = .null
    · simp [hy, Json.optional, hnull]
    · simp [optional_of_ne_null hy]

theorem optional_eq_some_none {x : Option Json} :
    Json.optional read? x = some none ↔ x = none ∨ x = some .null := by
  cases x with
  | none => simp [Json.optional]
  | some y =>
    by_cases hy : y = .null
    · simp [hy, Json.optional]
    · simp [optional_of_ne_null hy, hy]

/-- Where nothing was read, there is nothing among the overrides either. -/
theorem Faithful.over_of_optional_none (h : Faithful read? write) (hnull : read? .null = none)
    {put : ρ → Option Json} (hput : ∀ u j, put u = some j → ∃ a, write a = j) {o x : Option Json}
    (hx : OverAt put o x) (hr : Json.optional read? x = some none) : o = none ∨ o = some .null := by
  rcases optional_eq_some_none.mp hr with rfl | rfl
  · exact overAt_none hx
  · rcases overAt_some hput hx with ho | ⟨a, ha, hm⟩
    · exact Or.inr ho
    · have hne : write a ≠ .null := by
        intro he
        have hra := h.read_write a ha
        simp [he, hnull] at hra
      cases o with
      | none => exact Or.inl rfl
      | some o => exact absurd (Option.some.inj hm) (merge_ne_null hne)

theorem Stable.optional (h : Stable read? write) (hnull : read? .null = none)
    (get : ρ → Option α) : (Slot.optional name read? write get).Stable where
  reads_put v hv := by
    change Json.optional read? ((get v).map write) = some (get v)
    cases hg : get v with
    | none => rfl
    | some w =>
      refine (optional_eq_some_some hnull).mpr ⟨write w, rfl, h.read_write w (hv _ ?_)⟩
      exact Option.map_eq_some_iff.mpr ⟨w, hg, rfl⟩
  wellKeyed x v hr := by
    intro j hj
    obtain ⟨w, hw, rfl⟩ := Option.map_eq_some_iff.mp hj
    change Json.optional read? x = some (get v) at hr
    obtain ⟨y, _, hy⟩ := (optional_eq_some_some hnull).mp (hw ▸ hr)
    exact h.wellKeyed y w hy
  stable := by
    intro o x v ho hx hr
    have hput : ∀ u j, (get u).map write = some j → ∃ a, write a = j := by
      intro u j hj
      obtain ⟨a, _, ha⟩ := Option.map_eq_some_iff.mp hj
      exact ⟨a, ha⟩
    change Json.optional read? (mergeAt ((get v).map write) o) = some (get v)
    change Json.optional read? x = some (get v) at hr
    cases hg : get v with
    | some w =>
      obtain ⟨y, rfl, hy⟩ := (optional_eq_some_some hnull).mp (hg ▸ hr)
      obtain ⟨j, hj, hjr⟩ := h.at_key hput ho hx hy
      exact (optional_eq_some_some hnull).mpr ⟨j, hj, hjr⟩
    | none =>
      have hover := h.toFaithful.over_of_optional_none hnull hput hx (hg ▸ hr)
      rcases hover with rfl | rfl <;> rfl

end

/-! ### Records -/

/-- The members of an object that is written field by field. -/
def membersOf (fields : List (String × Option Json)) : List (String × Json) :=
  fields.filterMap fun f => f.2.map fun j => (f.1, j)

theorem keys_membersOf_sublist (fields : List (String × Option Json)) :
    (Keyed.keys (membersOf fields)).Sublist (Keyed.keys fields) := by
  induction fields with
  | nil => exact List.Sublist.slnil
  | cons f fields ih =>
    obtain ⟨k, x⟩ := f
    cases x with
    | none => exact ih.cons k
    | some j => exact ih.cons_cons k

theorem lookup_membersOf {fields : List (String × Option Json)} (hn : (Keyed.keys fields).Nodup)
    (k : String) : (membersOf fields).lookup k = (fields.lookup k).join := by
  induction fields with
  | nil => rfl
  | cons f fields ih =>
    obtain ⟨key, x⟩ := f
    obtain ⟨hf, hrest⟩ := List.nodup_cons.mp hn
    rw [Keyed.lookup_cons_eq]
    cases x with
    | some j =>
      change List.lookup k ((key, j) :: membersOf fields) = _
      rw [Keyed.lookup_cons_eq, ih hrest]
      split <;> rfl
    | none =>
      change List.lookup k (membersOf fields) = _
      rw [ih hrest]
      split
      next he => rw [he, Keyed.lookup_eq_none.mpr hf]; rfl
      next => rfl

theorem ofFields_eq (fields : List (String × Option Json)) :
    ofFields fields = .obj (membersOf fields) := rfl

/-- How a record is read and written: each slot at the key of its name. -/
structure Layout (slots : List (Slot ρ)) (names : List String)
    (read? : (String → Option Json) → Option ρ) (toFields : ρ → List (String × Option Json)) :
    Prop where
  names_eq : slots.map Slot.name = names
  nodup : names.Nodup
  fields_eq : ∀ v, toFields v = slots.map fun s => (s.name, s.put v)
  reads : ∀ x v, read? x = some v ↔ ∀ s ∈ slots, s.Reads (x s.name) v

namespace Layout

variable {slots : List (Slot ρ)} {names : List String} {read? : (String → Option Json) → Option ρ}
  {toFields : ρ → List (String × Option Json)}

theorem nodup_keys (h : Layout slots names read? toFields) (v : ρ) :
    (Keyed.keys (toFields v)).Nodup := by
  rw [h.fields_eq]
  simpa [Keyed.keys, Function.comp_def] using h.names_eq ▸ h.nodup

theorem nodup_keys_membersOf (h : Layout slots names read? toFields) (v : ρ) :
    (Keyed.keys (membersOf (toFields v))).Nodup :=
  (h.nodup_keys v).sublist (keys_membersOf_sublist _)

theorem lookup_toFields (h : Layout slots names read? toFields) (v : ρ) {s : Slot ρ}
    (hs : s ∈ slots) : (membersOf (toFields v)).lookup s.name = s.put v := by
  have hm : (s.name, s.put v) ∈ toFields v := by
    rw [h.fields_eq]
    exact List.mem_map_of_mem hs
  rw [lookup_membersOf (h.nodup_keys v), Keyed.lookup_of_mem (h.nodup_keys v) hm]
  rfl

theorem wellKeyedAt_put (h : Layout slots names read? toFields) {v : ρ}
    (hv : (ofFields (toFields v)).WellKeyed) {s : Slot ρ} (hs : s ∈ slots) :
    WellKeyedAt (s.put v) :=
  fun _ hj => wellKeyed_of_lookup hv ((h.lookup_toFields v hs).trans hj)

/-- A record is written without repeating a key just when each of its fields is. -/
theorem wellKeyed_iff (h : Layout slots names read? toFields) {v : ρ} :
    (ofFields (toFields v)).WellKeyed ↔ ∀ s ∈ slots, WellKeyedAt (s.put v) := by
  refine ⟨fun hv s hs => h.wellKeyedAt_put hv hs, fun hput => ?_⟩
  rw [ofFields_eq, wellKeyed_obj]
  refine ⟨h.nodup_keys_membersOf v, fun m hm => ?_⟩
  rw [h.fields_eq] at hm
  obtain ⟨f, hf, hm⟩ := List.mem_filterMap.mp hm
  obtain ⟨s, hs, rfl⟩ := List.mem_map.mp hf
  obtain ⟨j, hj, rfl⟩ := Option.map_eq_some_iff.mp hm
  exact hput s hs j hj

/-- Reading an object whose keys differ: members of other names do not matter. -/
theorem record?_obj (h : Layout slots names read? toFields) {members : List (String × Json)}
    (hn : (Keyed.keys members).Nodup) {v : ρ} :
    record? names read? (.obj members) = some v ↔
      ∀ s ∈ slots, s.Reads (members.lookup s.name) v := by
  have hknown : (Keyed.keys (members.filter fun m => names.contains m.1)).Nodup :=
    hn.sublist (List.filter_sublist.map Prod.fst)
  have hlookup : ∀ s ∈ slots,
      (members.filter fun m => names.contains m.1).lookup s.name = members.lookup s.name := by
    intro s hs
    apply Keyed.lookup_filter_keys
    rw [List.contains_iff_mem, ← h.names_eq]
    exact List.mem_map_of_mem hs
  simp only [record?, fields?, hknown, ↓reduceIte, Option.bind_some, h.reads]
  constructor
  · intro hr s hs
    exact hlookup s hs ▸ hr s hs
  · intro hr s hs
    rw [hlookup s hs]
    exact hr s hs

/-- Reading a record over which the members of an object were merged. -/
theorem record?_merge (h : Layout slots names read? toFields) {os : List (String × Json)}
    (ho : (Keyed.keys os).Nodup) {u v : ρ} :
    record? names read? ((ofFields (toFields u)).merge (.obj os)) = some v ↔
      ∀ s ∈ slots, s.Reads (mergeAt (s.put u) (os.lookup s.name)) v := by
  rw [ofFields_eq, merge_obj_obj,
    h.record?_obj (nodup_keys_mergeMembers (h.nodup_keys_membersOf u) ho)]
  constructor
  · intro hr s hs
    rw [← h.lookup_toFields u hs, ← lookup_mergeMembers ho]
    exact hr s hs
  · intro hr s hs
    rw [lookup_mergeMembers ho, h.lookup_toFields u hs]
    exact hr s hs

theorem faithful (h : Layout slots names read? toFields) (hs : ∀ s ∈ slots, s.Stable) :
    Faithful (record? names read?) fun v => ofFields (toFields v) where
  read_write v hv := by
    rw [ofFields_eq, h.record?_obj (h.nodup_keys_membersOf v)]
    intro s hmem
    rw [h.lookup_toFields v hmem]
    exact (hs s hmem).reads_put v (h.wellKeyedAt_put hv hmem)
  wellKeyed j v hr := by
    obtain ⟨members, _, hr⟩ := Option.bind_eq_some_iff.mp hr
    exact h.wellKeyed_iff.mpr fun s hmem => (hs s hmem).wellKeyed _ v ((h.reads _ _).mp hr s hmem)

/-- A record is stable when its slots are. -/
theorem stable (h : Layout slots names read? toFields) (hs : ∀ s ∈ slots, s.Stable) :
    Stable (record? names read?) fun v => ofFields (toFields v) where
  toFaithful := h.faithful hs
  stable := by
    intro o j v ho hj hr
    cases o with
    | null =>
      rw [merge_null]
      exact (h.faithful hs).read_write_of_read hr
    | obj os =>
      have hos := (wellKeyed_obj.mp ho).1
      rw [h.record?_merge hos]
      intro s hmem
      have hover : ∃ x, OverAt s.put (os.lookup s.name) x ∧ s.Reads x v := by
        rcases hj with rfl | ⟨u, hu, rfl⟩
        · exact ⟨_, Or.inl rfl, (h.record?_obj hos).mp hr s hmem⟩
        · refine ⟨_, Or.inr ⟨u, h.wellKeyedAt_put hu hmem, rfl⟩, ?_⟩
          exact (h.record?_merge hos).mp hr s hmem
      obtain ⟨x, hx, hrx⟩ := hover
      exact (hs s hmem).stable _ x v (fun _ hj => wellKeyed_of_lookup ho hj) hx hrx
    | _ => rcases hj with rfl | ⟨u, _, rfl⟩ <;> simpa using hr

end Layout

end Gleaner.Json
