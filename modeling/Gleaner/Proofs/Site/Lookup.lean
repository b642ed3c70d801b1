import Gleaner.Proofs.Site.Registry

/-!
Which site a text leads to after any registrations (`SiteRegistry.get?_ofList`). A name leads to its
own site. Any other key leads to the site that declared it last, and to none once that site was
replaced, also where another site still declares the key.
-/
namespace Gleaner

instance (s : SiteDefinition) (key : String) : Decidable (s.AnswersTo key) :=
  inferInstanceAs (Decidable (_ ∨ _))

namespace SiteRegistry

/-- The last of the registered sites that answers to a key. -/
def lastAnswering? (history : List SiteDefinition) (key : String) : Option SiteDefinition :=
  history.reverse.find? fun d => d.AnswersTo key

/-- Whether a key belongs to a site: it is the site's name, or it names no site and this is the one
that declared it last. -/
def Holds (history sites : List SiteDefinition) (key : String) (s : SiteDefinition) : Prop :=
  s.key = key ∨ key ∉ sites.map SiteDefinition.key ∧ lastAnswering? history key = some s

theorem lastAnswering?_concat (history : List SiteDefinition) (site : SiteDefinition)
    (key : String) :
    lastAnswering? (history ++ [site]) key =
      if site.AnswersTo key then some site else lastAnswering? history key := by
  rw [lastAnswering?, List.reverse_append, List.reverse_singleton, List.singleton_append,
    List.find?_cons]
  by_cases h : site.AnswersTo key
  · simp [h]
  · simp [h, lastAnswering?]

theorem answersTo_of_lastAnswering? {history : List SiteDefinition} {key : String}
    {s : SiteDefinition} (h : lastAnswering? history key = some s) : s.AnswersTo key := by
  simpa using List.find?_some h

theorem lastAnswering?_of_holds {history sites : List SiteDefinition} {key : String} {i : Nat}
    {s : SiteDefinition} (hname : key ∉ sites.map SiteDefinition.key) (hs : sites[i]? = some s)
    (h : Holds history sites key s) : lastAnswering? history key = some s := by
  rcases h with rfl | ⟨_, hlast⟩
  · exact absurd (List.mem_map_of_mem (List.mem_of_getElem? hs)) hname
  · exact hlast

/-! ### Aliases -/

theorem isNameOfOther_eq_false {sites : List SiteDefinition} {key : String}
    (h : key ∉ sites.map SiteDefinition.key) (index : OrderedMap Nat) (slot : Nat) :
    isNameOfOther sites index slot key = false := by
  unfold isNameOfOther
  cases index.get? key with
  | none => rfl
  | some other =>
    cases hs : sites[other]? with
    | none => simp [hs]
    | some s =>
      have hne : s.key ≠ key := by
        rintro rfl
        exact h (List.mem_map_of_mem (List.mem_of_getElem? hs))
      simp [hs, hne]

theorem get?_addAliases_of_not_mem (sites : List SiteDefinition) (slot : Nat)
    (index : OrderedMap Nat) {aka : List String} {key : String}
    (h : key ∉ aka.map Text.lower) :
    (aka.foldl (addAlias sites slot) index).get? key = index.get? key := by
  induction aka generalizing index with
  | nil => rfl
  | cons other aka ih =>
    rw [List.map_cons, List.mem_cons, not_or] at h
    rw [List.foldl_cons, ih _ h.2, get?_addAlias, if_neg fun he => h.1 he.1]

theorem get?_addAliases_of_mem {sites : List SiteDefinition} {slot : Nat} {key : String}
    (hname : key ∉ sites.map SiteDefinition.key) (index : OrderedMap Nat) {aka : List String}
    (h : key ∈ aka.map Text.lower) :
    (aka.foldl (addAlias sites slot) index).get? key = some slot := by
  induction aka generalizing index with
  | nil => simp at h
  | cons other aka ih =>
    by_cases hrest : key ∈ aka.map Text.lower
    · exact ih _ hrest
    · rw [List.map_cons, List.mem_cons, or_iff_left hrest] at h
      rw [List.foldl_cons, get?_addAliases_of_not_mem _ _ _ hrest, get?_addAlias,
        if_pos ⟨h, isNameOfOther_eq_false hname index slot⟩]

/-! ### Registrations -/

namespace Registered

variable {history : List SiteDefinition} {r : SiteRegistry}

theorem mem_keys_register (h : Registered history r) (site : SiteDefinition) {key : String} :
    key ∈ (r.register site).sites.map SiteDefinition.key ↔
      key ∈ r.sites.map SiteDefinition.key ∨ key = site.key := by
  rw [h.keys_register, h.keys, List.mem_eraseDups, List.mem_eraseDups, List.map_append,
    List.mem_append, List.map_singleton, List.mem_singleton]

/-- What a registration does to a key that names no site: its site takes the key, or loses it. -/
theorem get?_index_register (h : Registered history r) (site : SiteDefinition) {key : String}
    (hname : key ∉ (r.register site).sites.map SiteDefinition.key) :
    (r.register site).index.get? key =
      if site.AnswersTo key then some (slotOf r.sites site.key)
      else (r.index.get? key).filter (· != slotOf r.sites site.key) := by
  have hkey : key ≠ site.key := fun he => hname ((h.mem_keys_register site).mpr (Or.inr he))
  rw [SiteRegistry.register, OrderedMap.get?_insert, if_neg hkey]
  by_cases halias : key ∈ site.aka.map Text.lower
  · have hanswers : site.AnswersTo key := Or.inr halias
    rw [if_pos hanswers]
    exact get?_addAliases_of_mem hname _ halias
  · have hanswers : ¬ site.AnswersTo key := not_or.mpr ⟨Ne.symm hkey, halias⟩
    rw [if_neg hanswers, get?_addAliases_of_not_mem _ _ _ halias, h.get?_cleared]

theorem get?_index_of_name (h : Registered history r) {key : String}
    (hname : key ∈ r.sites.map SiteDefinition.key) {i : Nat} :
    r.index.get? key = some i ↔ ∃ s, r.sites[i]? = some s ∧ s.key = key := by
  obtain ⟨t, ht, rfl⟩ := List.mem_map.mp hname
  obtain ⟨j, hj⟩ := List.mem_iff_getElem?.mp ht
  rw [h.named j t hj]
  constructor
  · intro he
    cases Option.some.inj he
    exact ⟨t, hj, rfl⟩
  · rintro ⟨s, hs, hk⟩
    rw [h.eq_of_key_eq hs hj hk]

end Registered

/-- The index leads each key to the place of the site that holds it. -/
def Leads (history : List SiteDefinition) (r : SiteRegistry) : Prop :=
  ∀ key i, r.index.get? key = some i ↔ ∃ s, r.sites[i]? = some s ∧ Holds history r.sites key s

theorem leads_empty : Leads [] empty := by
  simp [Leads, empty, OrderedMap.empty, OrderedMap.get?]

theorem leads_register {history : List SiteDefinition} {r : SiteRegistry}
    (h : Registered history r) (hl : Leads history r) (site : SiteDefinition) :
    Leads (history ++ [site]) (r.register site) := by
  intro key i
  have hnext := h.register site
  -- A name leads to its own site by now; for other keys it matters whether the site declares them.
  by_cases hname : key ∈ (r.register site).sites.map SiteDefinition.key
  · simp only [hnext.get?_index_of_name hname, Holds, hname, not_true_eq_false, false_and, or_false]
  have hold : key ∉ r.sites.map SiteDefinition.key := fun he =>
    hname ((h.mem_keys_register site).mpr (Or.inl he))
  have hsites : ∀ i, (r.register site).sites[i]? =
      if i = slotOf r.sites site.key then some site else r.sites[i]? :=
    getElem?_store (slotOf_le_length _ _) site
  rw [h.get?_index_register site hname]
  by_cases hsite : site.AnswersTo key
  · rw [if_pos hsite]
    constructor
    · intro he
      cases Option.some.inj he
      refine ⟨site, by rw [hsites, if_pos rfl], Or.inr ⟨hname, ?_⟩⟩
      rw [lastAnswering?_concat, if_pos hsite]
    · rintro ⟨s, hs, hholds⟩
      have hlast := lastAnswering?_of_holds hname hs hholds
      rw [lastAnswering?_concat, if_pos hsite] at hlast
      cases Option.some.inj hlast
      rw [hnext.eq_of_key_eq hs (by rw [hsites, if_pos rfl]) rfl]
  · rw [if_neg hsite, Option.filter_eq_some_iff, hl key i]
    constructor
    · rintro ⟨⟨s, hs, hholds⟩, hi⟩
      refine ⟨s, ?_, Or.inr ⟨hname, ?_⟩⟩
      · rw [hsites, if_neg (by simpa using hi), hs]
      · rw [lastAnswering?_concat, if_neg hsite, lastAnswering?_of_holds hold hs hholds]
    · rintro ⟨s, hs, hholds⟩
      have hlast := lastAnswering?_of_holds hname hs hholds
      rw [lastAnswering?_concat, if_neg hsite] at hlast
      rcases h.getElem?_register site hs with ⟨_, rfl⟩ | ⟨hi, hs, _⟩
      · exact absurd (answersTo_of_lastAnswering? hlast) hsite
      · exact ⟨⟨s, hs, Or.inr ⟨hold, hlast⟩⟩, by simpa using hi⟩

theorem leads_registerAll {history : List SiteDefinition} {r : SiteRegistry}
    (h : Registered history r) (hl : Leads history r) (sites : List SiteDefinition) :
    Leads (history ++ sites) (r.registerAll sites) := by
  induction sites generalizing history r with
  | nil => simpa [SiteRegistry.registerAll] using hl
  | cons site sites ih =>
    have hrest := ih (h.register site) (leads_register h hl site)
    rwa [List.append_assoc, List.singleton_append] at hrest

theorem get?_ofList (history : List SiteDefinition) (name : String) (s : SiteDefinition) :
    (ofList history).get? name = some s ↔
      s ∈ (ofList history).sites ∧
        Holds history (ofList history).sites (Text.lower (Text.trimmed name)) s := by
  have hl : Leads history (ofList history) := leads_registerAll registered_empty leads_empty history
  rw [get?_eq_some]
  constructor
  · rintro ⟨i, hi, hs⟩
    obtain ⟨t, ht, hholds⟩ := (hl _ i).mp hi
    cases Option.some.inj (hs.symm.trans ht)
    exact ⟨List.mem_of_getElem? hs, hholds⟩
  · rintro ⟨hs, hholds⟩
    obtain ⟨i, hi⟩ := List.mem_iff_getElem?.mp hs
    exact ⟨i, (hl _ i).mpr ⟨s, hi, hholds⟩, hi⟩

/-- A text leads to a site that answers to it just when the site that holds its key does. A text
without blanks at its ends leads nowhere when it names no site, and no site declared it or the one
that did so last was replaced. -/
theorem found_iff_held (history : List SiteDefinition) (x : String) :
    ((∃ t, (ofList history).get? x = some t ∧ t.AnswersTo (Text.lower x)) ↔
      ∃ t ∈ (ofList history).sites, t.AnswersTo (Text.lower x) ∧
        Holds history (ofList history).sites (Text.lower (Text.trimmed x)) t) ∧
    (Text.trimmed x = x → ((ofList history).get? x = none ↔
      Text.lower x ∉ (ofList history).sites.map SiteDefinition.key ∧
        ∀ t, lastAnswering? history (Text.lower x) = some t → t ∉ (ofList history).sites)) := by
  constructor
  · refine exists_congr fun t => ?_
    rw [get?_ofList, and_assoc]
    exact and_congr_right fun _ => and_comm
  · intro htrim
    rw [Option.eq_none_iff_forall_ne_some]
    simp only [ne_eq, get?_ofList, htrim]
    constructor
    · intro h
      have hname : Text.lower x ∉ (ofList history).sites.map SiteDefinition.key := by
        intro hmem
        obtain ⟨t, ht, hk⟩ := List.mem_map.mp hmem
        exact h t ⟨ht, Or.inl hk⟩
      exact ⟨hname, fun t hlast ht => h t ⟨ht, Or.inr ⟨hname, hlast⟩⟩⟩
    · rintro ⟨hname, hlast⟩ t ⟨ht, hk | ⟨_, hk⟩⟩
      · exact hname (List.mem_map.mpr ⟨t, ht, hk⟩)
      · exact hlast t hk ht

/-- Two sites with one alias, the later of them registered again without it. -/
def aliasGivenUp : List SiteDefinition :=
  [{ SiteDefinition.empty with name := "One", aka := ["Uno"] },
    { SiteDefinition.empty with name := "Two", aka := ["Uno"] },
    { SiteDefinition.empty with name := "Two" }]

theorem not_declared_found :
    ¬ ∀ history : List SiteDefinition, ∀ s ∈ (ofList history).sites, ∀ x ∈ s.name :: s.aka,
      ∃ t, (ofList history).get? x = some t ∧ t.AnswersTo (Text.lower x) := by
  intro h
  have hlost : ∃ s ∈ (ofList aliasGivenUp).sites, "Uno" ∈ s.name :: s.aka ∧
      ((ofList aliasGivenUp).get? "Uno").isNone := by decide +kernel
  obtain ⟨s, hs, hdeclared, hnone⟩ := hlost
  obtain ⟨t, ht, _⟩ := h aliasGivenUp s hs "Uno" hdeclared
  simp [ht] at hnone

end SiteRegistry

end Gleaner
