import Gleaner.Proofs.Site.Lookup

/-!
The order of registrations. What a text leads to is settled by the last site of each name and the
last site that answers to each key (`SiteRegistry.get?_ofList_congr`). So sites without a common key
may be registered in whatever order (`SiteRegistry.get?_ofList_of_perm`).
-/
namespace Gleaner

namespace SiteDefinition

/-- The keys that a site is registered under. -/
def keys (s : SiteDefinition) : List String := s.key :: s.aka.map Text.lower

/-- Sites without a common key. -/
def Unrelated (a b : SiteDefinition) : Prop := ∀ key ∈ a.keys, key ∉ b.keys

theorem mem_keys {s : SiteDefinition} {key : String} : key ∈ s.keys ↔ s.AnswersTo key := by
  rw [keys, List.mem_cons, AnswersTo, eq_comm]

theorem Unrelated.symm {a b : SiteDefinition} (h : a.Unrelated b) : b.Unrelated a :=
  fun key hb ha => h key ha hb

theorem Unrelated.not_answersTo {a b : SiteDefinition} (h : a.Unrelated b) {key : String}
    (ha : a.AnswersTo key) : ¬ b.AnswersTo key :=
  mt mem_keys.mpr (h key (mem_keys.mpr ha))

end SiteDefinition

/-- A search finds the same in whatever order when no two elements pass its test. -/
theorem find?_of_perm {α : Type} {p : α → Bool} {xs ys : List α} (h : xs.Perm ys)
    (hp : xs.Pairwise fun a b => ¬ (p a = true ∧ p b = true)) : xs.find? p = ys.find? p := by
  induction h with
  | nil => rfl
  | cons x _ ih => rw [List.find?_cons, List.find?_cons, ih (List.pairwise_cons.mp hp).2]
  | swap x y xs =>
    have hxy := (List.pairwise_cons.mp hp).1 x List.mem_cons_self
    rw [List.find?_cons, List.find?_cons, List.find?_cons, List.find?_cons]
    cases hx : p x with
    | false => rfl
    | true =>
      have hy : p y = false := Bool.of_not_eq_true fun hy => hxy ⟨hy, hx⟩
      rw [hy]
  | trans hxy _ ihxy ihyz =>
    have hsymm : ∀ {a b : α}, ¬ (p a = true ∧ p b = true) → ¬ (p b = true ∧ p a = true) :=
      fun hab hba => hab hba.symm
    exact (ihxy hp).trans (ihyz ((hxy.pairwise_iff hsymm).mp hp))

namespace SiteRegistry

/-- The last of the registered sites that has a name. -/
def lastNamed? (history : List SiteDefinition) (key : String) : Option SiteDefinition :=
  history.reverse.find? fun d => d.key = key

theorem mem_names_ofList {history : List SiteDefinition} {key : String} :
    key ∈ (ofList history).sites.map SiteDefinition.key ↔
      (lastNamed? history key).isSome = true := by
  rw [(Registered.ofList history).keys, List.mem_eraseDups, lastNamed?, List.find?_isSome]
  simp

theorem mem_sites_ofList {history : List SiteDefinition} {s : SiteDefinition} :
    s ∈ (ofList history).sites ↔ lastNamed? history s.key = some s := by
  have hlast := (Registered.ofList history).last
  constructor
  · exact hlast s
  · intro h
    have hname : s.key ∈ (ofList history).sites.map SiteDefinition.key := by
      rw [mem_names_ofList, h]
      rfl
    obtain ⟨t, ht, hkey⟩ := List.mem_map.mp hname
    have hlast := hlast t ht
    rw [hkey] at hlast
    cases Option.some.inj (h.symm.trans hlast)
    exact ht

/-- All that counts of a history is which sites were the last ones of a name and of a key. -/
theorem get?_ofList_congr {history history' : List SiteDefinition}
    (hnamed : ∀ key, lastNamed? history key = lastNamed? history' key)
    (hanswering : ∀ key, lastAnswering? history key = lastAnswering? history' key) (q : String) :
    (ofList history).get? q = (ofList history').get? q := by
  apply Option.ext
  intro s
  simp only [get?_ofList, Holds, mem_sites_ofList, mem_names_ofList, hnamed, hanswering]

/-- Sites of which no two have a common key may change places in a history. -/
theorem get?_ofList_of_perm {sites sites' : List SiteDefinition} (hperm : sites.Perm sites')
    (h : sites.Pairwise SiteDefinition.Unrelated) (history later : List SiteDefinition)
    (q : String) :
    (ofList (history ++ sites ++ later)).get? q = (ofList (history ++ sites' ++ later)).get? q := by
  -- Each test below passes only sites that answer to one key.
  have hfind : ∀ (key : String) (p : SiteDefinition → Bool),
      (∀ s, p s = true → s.AnswersTo key) →
      (history ++ sites ++ later).reverse.find? p =
        (history ++ sites' ++ later).reverse.find? p := by
    intro key p hp
    have hapart : sites.reverse.Pairwise fun a b => ¬ (p a = true ∧ p b = true) := by
      refine List.pairwise_reverse.mpr (h.imp fun {a b} hab hpab => ?_)
      exact hab.not_answersTo (hp a hpab.2) (hp b hpab.1)
    have hreverse : sites.reverse.Perm sites'.reverse :=
      (List.reverse_perm sites).trans (hperm.trans (List.reverse_perm sites').symm)
    simp only [List.reverse_append, List.find?_append, find?_of_perm hreverse hapart]
  refine get?_ofList_congr (fun key => hfind key _ fun s hs => ?_)
    (fun key => hfind key _ fun s hs => ?_) q
  · exact Or.inl (by simpa using hs)
  · simpa using hs

theorem ofList_append (history sites : List SiteDefinition) :
    ofList (history ++ sites) = (ofList history).registerAll sites :=
  List.foldl_append

theorem ofList_append_pair (history : List SiteDefinition) (x y : SiteDefinition) :
    ofList (history ++ [x, y]) = ((ofList history).register x).register y :=
  ofList_append history [x, y]

/-- A site that was registered last but for an unrelated one is found by its keys. -/
theorem get?_ofList_of_unrelated (history : List SiteDefinition) {a b : SiteDefinition}
    (h : a.Unrelated b) {q : String} (hq : Text.lower (Text.trimmed q) ∈ a.keys)
    (hname : Text.lower (Text.trimmed q) = a.key ∨
      Text.lower (Text.trimmed q) ∉ (ofList history).sites.map SiteDefinition.key) :
    (ofList (history ++ [a, b])).get? q = some a := by
  have hfind : ∀ p : SiteDefinition → Bool, p a = true → p b = false →
      (history ++ [a, b]).reverse.find? p = some a := by
    intro p ha hb
    simp [ha, hb]
  have hown : ¬ b.key = a.key := fun he => h.not_answersTo (Or.inl rfl) (Or.inl he)
  have hanswers := SiteDefinition.mem_keys.mp hq
  have hother := h.not_answersTo hanswers
  refine (get?_ofList _ _ _).mpr ⟨mem_sites_ofList.mpr (hfind _ (by simp) (by simpa using hown)), ?_⟩
  rcases hname with hname | hname
  · exact Or.inl hname.symm
  by_cases hkey : a.key = Text.lower (Text.trimmed q)
  · exact Or.inl hkey
  refine Or.inr ⟨?_, hfind _ (by simpa using hanswers) (by simpa using hother)⟩
  have hb : b.key ≠ Text.lower (Text.trimmed q) := fun he => hother (Or.inl he)
  rw [(Registered.ofList history).keys, List.mem_eraseDups] at hname
  rw [(Registered.ofList (history ++ [a, b])).keys, List.mem_eraseDups, List.map_append,
    List.mem_append, not_or]
  exact ⟨hname, by simp [Ne.symm hkey, Ne.symm hb]⟩

/-- Two sites without a common key may be registered in either order, whatever was registered before
them and is registered after them: every text leads to the same site. Right after they were
registered, each of them is found by its keys, save those that are names of other sites. -/
theorem unrelated_commute (history : List SiteDefinition) {a b : SiteDefinition}
    (h : a.Unrelated b) :
    (∀ later q,
      ((((ofList history).register a).register b).registerAll later).get? q =
        ((((ofList history).register b).register a).registerAll later).get? q) ∧
    ∀ s ∈ [a, b], ∀ q, Text.lower (Text.trimmed q) ∈ s.keys →
      (Text.lower (Text.trimmed q) = s.key ∨
        Text.lower (Text.trimmed q) ∉ (ofList history).sites.map SiteDefinition.key) →
      (((ofList history).register a).register b).get? q = some s := by
  have hcommute : ∀ later q,
      ((((ofList history).register a).register b).registerAll later).get? q =
        ((((ofList history).register b).register a).registerAll later).get? q := by
    intro later q
    rw [← ofList_append_pair, ← ofList_append_pair, ← ofList_append, ← ofList_append]
    exact get?_ofList_of_perm (List.Perm.swap b a []) (by simpa using h) history later q
  refine ⟨hcommute, ?_⟩
  simp only [List.forall_mem_cons]
  refine ⟨fun q hq hname => ?_, fun q hq hname => ?_, by simp⟩
  · rw [← ofList_append_pair]
    exact get?_ofList_of_unrelated history h hq hname
  · refine (hcommute [] q).trans ?_
    change (((ofList history).register b).register a).get? q = some b
    rw [← ofList_append_pair]
    exact get?_ofList_of_unrelated history h.symm hq hname

/-- Sites whose aliases are exchanged by later definitions. -/
def exchangedSites : List SiteDefinition :=
  [{ SiteDefinition.empty with name := "One", aka := ["Uno"] },
    { SiteDefinition.empty with name := "Two", aka := ["Due"] }]

theorem unrelated_commute_exchanged :
    let one := { SiteDefinition.empty with name := "One", aka := ["Due"] }
    let two := { SiteDefinition.empty with name := "Two", aka := ["Uno"] }
    one.Unrelated two ∧
      (((ofList exchangedSites).register one).register two).get? "UNO" = some two ∧
      (((ofList exchangedSites).register two).register one).get? "UNO" = some two := by
  intro one two
  have h : one.Unrelated two := by
    unfold SiteDefinition.Unrelated
    decide +kernel
  obtain ⟨hcommute, hfound⟩ := unrelated_commute exchangedSites h
  have huno : (((ofList exchangedSites).register one).register two).get? "UNO" = some two :=
    hfound two (by simp) "UNO" (by decide +kernel) (Or.inr (by decide +kernel))
  exact ⟨h, huno, (hcommute [] "UNO").symm.trans huno⟩

end SiteRegistry

end Gleaner
