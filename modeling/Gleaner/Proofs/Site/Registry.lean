import Gleaner.Proofs.Keyed
import Gleaner.Site.Registry

/-!
What holds of a registry after any registrations (`SiteRegistry.Registered`): its sites are the
last ones of each name, every name leads to its own site, and every key of the index to a site that
has it as its name or declares it as an alias.
-/
namespace Gleaner

/-- Whether a site answers to a key, by its name or an alias. -/
def SiteDefinition.AnswersTo (s : SiteDefinition) (key : String) : Prop :=
  s.key = key ∨ key ∈ s.aka.map Text.lower

namespace SiteRegistry

/-! ### Places -/

theorem slotOf_le_length (sites : List SiteDefinition) (key : String) :
    slotOf sites key ≤ sites.length :=
  List.findIdx_le_length

theorem key_of_slotOf {sites : List SiteDefinition} {key : String} {s : SiteDefinition}
    (h : sites[slotOf sites key]? = some s) : s.key = key := by
  simpa using List.findIdx_of_getElem?_eq_some h

theorem slotOf_eq_length {sites : List SiteDefinition} {key : String} :
    slotOf sites key = sites.length ↔ key ∉ sites.map SiteDefinition.key := by
  rw [slotOf, List.findIdx_eq_length]
  simp

theorem slotOf_lt_length {sites : List SiteDefinition} {key : String}
    (h : key ∈ sites.map SiteDefinition.key) : slotOf sites key < sites.length := by
  have hne := mt slotOf_eq_length.mp (not_not_intro h)
  have hle := slotOf_le_length sites key
  omega

theorem getElem?_store {sites : List SiteDefinition} {slot : Nat} (h : slot ≤ sites.length)
    (site : SiteDefinition) (i : Nat) :
    (store sites slot site)[i]? = if i = slot then some site else sites[i]? := by
  unfold store
  split
  next he =>
    subst he
    by_cases hi : i = sites.length
    · simp [hi]
    · rw [if_neg hi]
      by_cases hlt : i < sites.length
      · rw [List.getElem?_append_left hlt]
      · have hout : (sites ++ [site]).length ≤ i := by
          simp only [List.length_append, List.length_singleton]
          omega
        rw [List.getElem?_eq_none hout, List.getElem?_eq_none (by omega)]
  next he =>
    rw [List.getElem?_set]
    by_cases hi : slot = i
    · have hlt : slot < sites.length := by omega
      simp [hi.symm, hlt]
    · simp [hi, Ne.symm hi]

theorem keys_store {sites : List SiteDefinition} {site : SiteDefinition} :
    (store sites (slotOf sites site.key) site).map SiteDefinition.key =
      if site.key ∈ sites.map SiteDefinition.key then sites.map SiteDefinition.key
      else sites.map SiteDefinition.key ++ [site.key] := by
  by_cases hk : site.key ∈ sites.map SiteDefinition.key
  · rw [if_pos hk]
    apply List.ext_getElem?
    intro i
    rw [List.getElem?_map, List.getElem?_map, getElem?_store (slotOf_le_length sites site.key)]
    split
    next hi =>
      have hlt : i < sites.length := hi ▸ slotOf_lt_length hk
      have hs : sites[slotOf sites site.key]? = some sites[i] := by
        rw [← hi, List.getElem?_eq_getElem hlt]
      rw [List.getElem?_eq_getElem hlt, Option.map_some, Option.map_some, key_of_slotOf hs]
    next => rfl
  · rw [if_neg hk, store, if_pos (slotOf_eq_length.mpr hk), List.map_append]
    rfl

/-! ### The index -/

theorem get?_without (index : OrderedMap Nat) (slot : Nat) (k : String) :
    (without index slot).get? k = (index.get? k).filter (· != slot) := by
  have hn : (Keyed.keys (index.entries.filter fun e => e.2 != slot)).Nodup :=
    index.nodup.sublist (List.filter_sublist.map Prod.fst)
  rw [OrderedMap.get?, without, OrderedMap.entries_ofList hn]
  exact Keyed.lookup_filter_values (· != slot) k index.nodup

theorem get?_addAlias (sites : List SiteDefinition) (slot : Nat) (index : OrderedMap Nat)
    (other k : String) :
    (addAlias sites slot index other).get? k =
      if k = Text.lower other ∧ isNameOfOther sites index slot k = false then some slot
      else index.get? k := by
  unfold addAlias
  by_cases hk : k = Text.lower other
  · subst hk
    cases hother : isNameOfOther sites index slot (Text.lower other) with
    | true => simp [hother]
    | false => simp [hother, OrderedMap.get?_insert]
  · cases hother : isNameOfOther sites index slot (Text.lower other) with
    | true => simp [hother, hk]
    | false => simp [hother, OrderedMap.get?_insert, hk]

/-- What leads somewhere after aliases were added led there before, or is one of them. -/
theorem get?_addAliases {sites : List SiteDefinition} {slot i : Nat} {index : OrderedMap Nat}
    {aka : List String} {k : String}
    (h : (aka.foldl (addAlias sites slot) index).get? k = some i) :
    (i = slot ∧ k ∈ aka.map Text.lower) ∨ index.get? k = some i := by
  induction aka generalizing index with
  | nil => exact Or.inr h
  | cons other aka ih =>
    rcases ih h with ⟨hi, hk⟩ | h
    · exact Or.inl ⟨hi, List.mem_cons_of_mem _ hk⟩
    · rw [get?_addAlias] at h
      split at h
      next hk =>
        cases Option.some.inj h
        exact Or.inl ⟨rfl, List.mem_map.mpr ⟨other, List.mem_cons_self, hk.1.symm⟩⟩
      next => exact Or.inr h

/-- Aliases take no name from another site. -/
theorem get?_addAliases_of_name {sites : List SiteDefinition} {slot i : Nat}
    {index : OrderedMap Nat} {s : SiteDefinition} (hi : i ≠ slot) (hs : sites[i]? = some s)
    (aka : List String) (h : index.get? s.key = some i) :
    (aka.foldl (addAlias sites slot) index).get? s.key = some i := by
  induction aka generalizing index with
  | nil => exact h
  | cons other aka ih =>
    apply ih
    have hname : isNameOfOther sites index slot s.key = true := by
      simp [isNameOfOther, h, hi, hs]
    rw [get?_addAlias, if_neg (by simp [hname]), h]

/-! ### Registrations -/

theorem eraseDups_concat (xs : List String) (x : String) :
    (xs ++ [x]).eraseDups = if x ∈ xs then xs.eraseDups else xs.eraseDups ++ [x] := by
  rw [List.eraseDups_append]
  by_cases hx : x ∈ xs <;> simp [List.removeAll, List.eraseDups_cons, hx]

/-- What a registry is after the registrations of a history. -/
structure Registered (history : List SiteDefinition) (r : SiteRegistry) : Prop where
  /-- Names stand in the order in which they came first. -/
  keys : r.sites.map SiteDefinition.key = (history.map SiteDefinition.key).eraseDups
  last : ∀ s ∈ r.sites, history.reverse.find? (fun d => d.key = s.key) = some s
  named : ∀ i s, r.sites[i]? = some s → r.index.get? s.key = some i
  answers : ∀ k i, r.index.get? k = some i → ∃ s, r.sites[i]? = some s ∧ s.AnswersTo k

theorem registered_empty : Registered [] empty where
  keys := rfl
  last := by simp [empty]
  named := by simp [empty]
  answers := by simp [empty, OrderedMap.empty, OrderedMap.get?]

namespace Registered

variable {history : List SiteDefinition} {r : SiteRegistry}

theorem eq_of_key_eq (h : Registered history r) {i j : Nat} {s t : SiteDefinition}
    (hs : r.sites[i]? = some s) (ht : r.sites[j]? = some t) (hk : s.key = t.key) : i = j := by
  have hi := h.named i s hs
  rw [hk, h.named j t ht] at hi
  exact (Option.some.inj hi).symm

theorem lt_length (h : Registered history r) {k : String} {i : Nat}
    (hk : r.index.get? k = some i) : i < r.sites.length := by
  obtain ⟨s, hs, _⟩ := h.answers k i hk
  exact (List.getElem?_eq_some_iff.mp hs).1

/-- Only the slot of a name holds a site of that name. -/
theorem eq_slotOf (h : Registered history r) {i : Nat} {s : SiteDefinition}
    (hs : r.sites[i]? = some s) : i = slotOf r.sites s.key := by
  have hmem : s.key ∈ r.sites.map SiteDefinition.key :=
    List.mem_map_of_mem (List.mem_of_getElem? hs)
  have hslot := List.getElem?_eq_getElem (slotOf_lt_length hmem)
  exact h.eq_of_key_eq hs hslot (key_of_slotOf hslot).symm

theorem nodup_keys (h : Registered history r) : (r.sites.map SiteDefinition.key).Nodup := by
  rw [List.Nodup, List.pairwise_iff_getElem]
  intro i j hi hj hlt he
  rw [List.length_map] at hi hj
  rw [List.getElem_map, List.getElem_map] at he
  have hij := h.eq_of_key_eq (List.getElem?_eq_getElem hi) (List.getElem?_eq_getElem hj) he
  omega

/-- The index without what leads to the place of a name, be that old or new. -/
theorem get?_cleared (h : Registered history r) (key k : String) :
    (if slotOf r.sites key = r.sites.length then r.index
      else without r.index (slotOf r.sites key)).get? k =
      (r.index.get? k).filter (· != slotOf r.sites key) := by
  split
  next hnew =>
    cases hk : r.index.get? k with
    | none => rfl
    | some i =>
      have hne : i ≠ slotOf r.sites key := by
        have hlt := h.lt_length hk
        omega
      simp [Option.filter, hne]
  next => exact get?_without _ _ k

/-- What a slot holds once a site is registered: that site at its place, and others elsewhere. -/
theorem getElem?_register (h : Registered history r) (site : SiteDefinition) {i : Nat}
    {s : SiteDefinition} (hs : (r.register site).sites[i]? = some s) :
    (i = slotOf r.sites site.key ∧ s = site) ∨
      (i ≠ slotOf r.sites site.key ∧ r.sites[i]? = some s ∧ s.key ≠ site.key) := by
  rw [SiteRegistry.register, getElem?_store (slotOf_le_length _ _)] at hs
  split at hs
  next hi => exact Or.inl ⟨hi, (Option.some.inj hs).symm⟩
  next hi =>
    refine Or.inr ⟨hi, hs, fun hk => hi ?_⟩
    rw [← hk]
    exact h.eq_slotOf hs

theorem keys_register (h : Registered history r) (site : SiteDefinition) :
    (r.register site).sites.map SiteDefinition.key =
      ((history ++ [site]).map SiteDefinition.key).eraseDups := by
  rw [SiteRegistry.register, keys_store, List.map_append, List.map_singleton, eraseDups_concat,
    h.keys]
  simp only [List.mem_eraseDups]

theorem named_register (h : Registered history r) (site : SiteDefinition) (i : Nat)
    (s : SiteDefinition) (hs : (r.register site).sites[i]? = some s) :
    (r.register site).index.get? s.key = some i := by
  rw [SiteRegistry.register, OrderedMap.get?_insert]
  rcases h.getElem?_register site hs with ⟨hi, rfl⟩ | ⟨hi, hold, hk⟩
  · rw [if_pos rfl, hi]
  · rw [if_neg hk]
    apply get?_addAliases_of_name hi hs
    rw [h.get?_cleared, h.named i s hold]
    simp [Option.filter, hi]

theorem answers_register (h : Registered history r) (site : SiteDefinition) (k : String) (i : Nat)
    (hk : (r.register site).index.get? k = some i) :
    ∃ s, (r.register site).sites[i]? = some s ∧ s.AnswersTo k := by
  have hsites : ∀ i, (r.register site).sites[i]? =
      if i = slotOf r.sites site.key then some site else r.sites[i]? :=
    getElem?_store (slotOf_le_length _ _) site
  rw [SiteRegistry.register, OrderedMap.get?_insert] at hk
  split at hk
  next he =>
    cases Option.some.inj hk
    exact ⟨site, by rw [hsites, if_pos rfl], Or.inl he.symm⟩
  next =>
    rcases get?_addAliases hk with ⟨rfl, halias⟩ | hold
    · exact ⟨site, by rw [hsites, if_pos rfl], Or.inr halias⟩
    · rw [h.get?_cleared, Option.filter_eq_some_iff] at hold
      obtain ⟨s, hs, hanswers⟩ := h.answers k i hold.1
      have hi : i ≠ slotOf r.sites site.key := by simpa using hold.2
      exact ⟨s, by rw [hsites, if_neg hi, hs], hanswers⟩

theorem last_register (h : Registered history r) (site s : SiteDefinition)
    (hs : s ∈ (r.register site).sites) :
    (history ++ [site]).reverse.find? (fun d => d.key = s.key) = some s := by
  obtain ⟨i, hi⟩ := List.mem_iff_getElem?.mp hs
  rw [List.reverse_append, List.reverse_singleton, List.singleton_append, List.find?_cons]
  rcases h.getElem?_register site hi with ⟨_, rfl⟩ | ⟨_, hold, hk⟩
  · simp
  · simpa [Ne.symm hk] using h.last s (List.mem_of_getElem? hold)

theorem register (h : Registered history r) (site : SiteDefinition) :
    Registered (history ++ [site]) (r.register site) where
  keys := h.keys_register site
  last := h.last_register site
  named := h.named_register site
  answers := h.answers_register site

theorem registerAll (h : Registered history r) (sites : List SiteDefinition) :
    Registered (history ++ sites) (r.registerAll sites) := by
  induction sites generalizing history r with
  | nil => simpa [SiteRegistry.registerAll] using h
  | cons site sites ih =>
    have hrest := ih (h.register site)
    rwa [List.append_assoc, List.singleton_append] at hrest

theorem ofList (history : List SiteDefinition) : Registered history (SiteRegistry.ofList history) :=
  registered_empty.registerAll history

end Registered

/-- A key of the index always has its site: no lookup leads out of bounds. -/
theorem Registered.isSome_get? {history : List SiteDefinition} {r : SiteRegistry}
    (h : Registered history r) (name : String) :
    (r.get? name).isSome = r.index.contains (Text.lower (Text.trimmed name)) := by
  unfold get? OrderedMap.contains
  cases hk : r.index.get? (Text.lower (Text.trimmed name)) with
  | none => rfl
  | some i => simp [List.getElem?_eq_getElem (h.lt_length hk)]

theorem get?_eq_some {r : SiteRegistry} {name : String} {s : SiteDefinition} :
    r.get? name = some s ↔
      ∃ i, r.index.get? (Text.lower (Text.trimmed name)) = some i ∧ r.sites[i]? = some s :=
  Option.bind_eq_some_iff

/-- What holds after any registrations. No two sites share a name, names stand in the order in which
they came first, and each site is the last one of its name. Every key leads to a site that answers
to it, and a site is found by its own name whatever aliases the others have. -/
theorem ofList_invariant (history : List SiteDefinition) :
    (((ofList history).sites.map SiteDefinition.key).Nodup ∧
      (ofList history).sites.map SiteDefinition.key =
        (history.map SiteDefinition.key).eraseDups ∧
      ∀ s ∈ (ofList history).sites,
        history.reverse.find? (fun d => d.key = s.key) = some s) ∧
    ((∀ e ∈ (ofList history).index.entries, e.2 < (ofList history).sites.length) ∧
      (∀ q, ((ofList history).get? q).isSome =
        (ofList history).index.contains (Text.lower (Text.trimmed q))) ∧
      ∀ q s, (ofList history).get? q = some s →
        s ∈ (ofList history).sites ∧ s.AnswersTo (Text.lower (Text.trimmed q))) ∧
    ∀ s ∈ (ofList history).sites, Text.trimmed s.name = s.name →
      (ofList history).get? s.name = some s := by
  have h := Registered.ofList history
  refine ⟨⟨h.nodup_keys, h.keys, h.last⟩, ⟨?_, h.isSome_get?, ?_⟩, ?_⟩
  · intro e he
    exact h.lt_length (Keyed.lookup_of_mem (OrderedMap.nodup _) he)
  · intro q s hs
    obtain ⟨i, hk, hi⟩ := get?_eq_some.mp hs
    obtain ⟨t, ht, hanswers⟩ := h.answers _ i hk
    cases Option.some.inj (hi.symm.trans ht)
    exact ⟨List.mem_of_getElem? hi, hanswers⟩
  · intro s hs htrim
    obtain ⟨i, hi⟩ := List.mem_iff_getElem?.mp hs
    refine get?_eq_some.mpr ⟨i, ?_, hi⟩
    rw [htrim]
    exact h.named i s hi

end SiteRegistry

end Gleaner
