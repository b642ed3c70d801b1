import Gleaner.Proofs.Site.Definition
import Gleaner.Site.Config

/-!
Resolving configurations. A configuration made into a definition and resolved again, under the
overrides that it came from or under none, is the configuration that it was.
-/
namespace Gleaner

open Json

theorem unlessBlank_eq_some {s : Option String} {t : String} :
    unlessBlank s = some t ↔ s = some t ∧ Text.blank t = false := by
  simp [unlessBlank, Option.filter_eq_some_iff]

theorem unlessBlank_unlessBlank (s : Option String) :
    unlessBlank (unlessBlank s) = unlessBlank s := by
  cases h : unlessBlank s with
  | none => rfl
  | some t => exact unlessBlank_eq_some.mpr ⟨rfl, (unlessBlank_eq_some.mp h).2⟩

/-- What stands in for a blank text may itself be blank, and stays. -/
theorem getD_unlessBlank_getD (s : Option String) (t : String) :
    (unlessBlank (some ((unlessBlank s).getD t))).getD t = (unlessBlank s).getD t := by
  cases h : unlessBlank s with
  | none =>
    rw [Option.getD_none]
    cases ht : unlessBlank (some t) with
    | none => rfl
    | some u => exact (Option.some.inj (unlessBlank_eq_some.mp ht).1).symm
  | some u =>
    have hu := unlessBlank_eq_some.mpr ⟨rfl, (unlessBlank_eq_some.mp h).2⟩
    rw [Option.getD_some, hu, Option.getD_some]

/-- A text under an override is what it was, or what the override made of another. -/
theorem optional_text_merged {base : Option String} {o : Option Json} {v : Option String}
    (h : Json.optional str? (mergeAt (base.map .str) o) = some v) (w : Option String) :
    ∃ u, Json.optional str? (mergeAt (w.map .str) o) = some u ∧ (u = w ∨ u = v) := by
  have hw : Json.optional str? (w.map .str) = some w := by cases w <;> rfl
  cases o with
  | none => exact ⟨w, by rwa [mergeAt_none], Or.inl rfl⟩
  | some j =>
    by_cases hj : j = .null
    · refine ⟨w, ?_, Or.inl rfl⟩
      subst j
      cases w <;> simpa using hw
    · have hover : ∀ x : Option String, mergeAt (x.map .str) (some j) = some j := by
        intro x
        cases x with
        | none => exact mergeAt_none_some hj
        | some t => exact congrArg some (merge_of_not_obj (by simp) hj)
      rw [hover] at h ⊢
      exact ⟨v, h, Or.inr rfl⟩

/-- Definitions that were read repeat no key. -/
theorem SiteDefinition.wellKeyed_of_parseAll {text : String} {ds : List SiteDefinition}
    (h : parseAll text = .ok ds) : ∀ d ∈ ds, d.toJson.WellKeyed := by
  intro d hd
  unfold parseAll at h
  split at h
  next ds' hread =>
    cases h
    obtain ⟨j, _, hj⟩ := Option.bind_eq_some_iff.mp hread
    unfold allOfJson? at hj
    split at hj
    next items =>
      obtain ⟨item, _, hitem⟩ := exists_of_mapM hj d hd
      exact SiteDefinition.stable.wellKeyed item d hitem
    next =>
      obtain ⟨only, honly, rfl⟩ := Option.map_eq_some_iff.mp hj
      cases List.mem_singleton.mp hd
      exact SiteDefinition.stable.wellKeyed j d honly
  next => cases h

namespace SiteConfig

theorem ofDefinition_eq_ok {m : SiteDefinition} {c : SiteConfig} (h : ofDefinition m = .ok c) :
    ∃ host, unlessBlank m.url = some c.url ∧ hostOfUrl c.url = .ok host ∧
      c.host = (unlessBlank m.host).getD host ∧ c.activateUrl = unlessBlank m.activateUrl ∧
      c.toDefinition = { m with host := some c.host, activateUrl := c.activateUrl } := by
  unfold ofDefinition at h
  split at h
  next => simp at h
  next url hurl =>
    cases hhost : hostOfUrl url with
    | error e => simp [hhost, Except.map] at h
    | ok host =>
      rw [hhost] at h
      cases h
      refine ⟨host, hurl, hhost, rfl, rfl, ?_⟩
      simp only [toDefinition, (unlessBlank_eq_some.mp hurl).1]

/-- The host and the active address of a definition may be those of its configuration. -/
theorem ofDefinition_readdressed {m : SiteDefinition} {c : SiteConfig} (h : ofDefinition m = .ok c)
    {host activateUrl : Option String} (hh : host = some c.host ∨ host = m.host)
    (ha : activateUrl = c.activateUrl ∨ activateUrl = m.activateUrl) :
    ofDefinition { m with host, activateUrl } = .ok c := by
  obtain ⟨derived, hurl, hderived, hhost, hactivate, hc⟩ := ofDefinition_eq_ok h
  have hhost' : (unlessBlank host).getD derived = c.host := by
    rcases hh with rfl | rfl
    · rw [hhost, getD_unlessBlank_getD]
    · exact hhost.symm
  have hactivate' : unlessBlank activateUrl = c.activateUrl := by
    rcases ha with rfl | rfl
    · rw [hactivate, unlessBlank_unlessBlank]
    · exact hactivate.symm
  simp only [ofDefinition, hurl, hderived, Except.map, hhost', hactivate']
  cases c
  simp only [toDefinition, SiteDefinition.mk.injEq] at hc
  simp [hc]

theorem resolve_eq_ok {d : SiteDefinition} {o : Json} {c : SiteConfig} :
    resolve d o = .ok c ↔
      ∃ m, SiteDefinition.ofJson? (d.toJson.merge o) = some m ∧ ofDefinition m = .ok c := by
  unfold resolve SiteDefinition.override
  cases hm : SiteDefinition.ofJson? (d.toJson.merge o) <;> simp [Except.bind]

/-- What a definition is read as under overrides, a configuration of it is read as again, apart
from the addresses that it fills in. -/
theorem ofJson?_merge_toDefinition {d m : SiteDefinition} {os : List (String × Json)}
    {c : SiteConfig} (hd : d.toJson.WellKeyed) (ho : (obj os).WellKeyed)
    (hm : SiteDefinition.ofJson? (d.toJson.merge (.obj os)) = some m)
    (hc : c.toDefinition = { m with host := some c.host, activateUrl := c.activateUrl }) :
    ∃ host activateUrl, (host = some c.host ∨ host = m.host) ∧
      (activateUrl = c.activateUrl ∨ activateUrl = m.activateUrl) ∧
      SiteDefinition.ofJson? (c.toDefinition.toJson.merge (.obj os)) =
        some { m with host, activateUrl } := by
  have hos := (wellKeyed_obj.mp ho).1
  have hfirst := (SiteDefinition.layout.record?_merge hos).mp hm
  have hagain : ∀ s ∈ SiteDefinition.slots, s.Reads (mergeAt (s.put m) (os.lookup s.name)) m := by
    intro s hs
    refine (SiteDefinition.stable_slots s hs).stable _ _ m
      (fun _ hj => wellKeyed_of_lookup ho hj) ?_ (hfirst s hs)
    exact Or.inr ⟨d, SiteDefinition.layout.wellKeyedAt_put hd hs, rfl⟩
  simp only [SiteDefinition.slots, List.forall_mem_cons] at hfirst hagain
  obtain ⟨-, -, -, -, hactivate, hhost, -⟩ := hfirst
  obtain ⟨activateUrl, hreadActivate, ha⟩ := optional_text_merged hactivate c.activateUrl
  obtain ⟨host, hreadHost, hh⟩ := optional_text_merged hhost (some c.host)
  obtain ⟨h1, h2, h3, h4, -, -, h7, h8, h9, h10, h11, h12, h13, h14, -⟩ := hagain
  refine ⟨host, activateUrl, hh, ha, (SiteDefinition.layout.record?_merge hos).mpr ?_⟩
  simp only [SiteDefinition.slots, List.forall_mem_cons]
  rw [hc]
  exact ⟨h1, h2, h3, h4, hreadActivate, hreadHost, h7, h8, h9, h10, h11, h12, h13, h14,
    List.forall_mem_nil _⟩

theorem resolve_toDefinition_members {d : SiteDefinition} {os : List (String × Json)}
    {c : SiteConfig} (hd : d.toJson.WellKeyed) (ho : (obj os).WellKeyed)
    (h : resolve d (.obj os) = .ok c) : resolve c.toDefinition (.obj os) = .ok c := by
  obtain ⟨m, hm, hc⟩ := resolve_eq_ok.mp h
  obtain ⟨_, _, _, _, _, hto⟩ := ofDefinition_eq_ok hc
  obtain ⟨host, activateUrl, hh, ha, hread⟩ := ofJson?_merge_toDefinition hd ho hm hto
  exact resolve_eq_ok.mpr ⟨_, hread, ofDefinition_readdressed hc hh ha⟩

theorem wellKeyed_nil : (obj []).WellKeyed := wellKeyed_obj.mpr ⟨List.nodup_nil, by simp⟩

theorem toJson_merge_nil (d : SiteDefinition) : d.toJson.merge (.obj []) = d.toJson := by
  rw [SiteDefinition.toJson, ofFields_eq, merge_obj_obj, mergeMembers]

theorem resolve_toDefinition_nil {d : SiteDefinition} {o : Json} {c : SiteConfig}
    (h : resolve d o = .ok c) : resolve c.toDefinition (.obj []) = .ok c := by
  obtain ⟨m, hm, hc⟩ := resolve_eq_ok.mp h
  have hkeyed : m.toJson.WellKeyed := SiteDefinition.stable.wellKeyed _ m hm
  have hread : SiteDefinition.ofJson? (m.toJson.merge (.obj [])) = some m := by
    rw [toJson_merge_nil]
    exact SiteDefinition.stable.read_write m hkeyed
  exact resolve_toDefinition_members hkeyed wellKeyed_nil (resolve_eq_ok.mpr ⟨m, hread, hc⟩)

/-- Resolving is idempotent, whether the overrides are given again or not. Objects are maps, so
definitions and overrides repeat no key (`wellKeyed_of_parseAll`, `wellKeyed_parse?`). -/
theorem resolve_toDefinition {d : SiteDefinition} {o : Json} {c : SiteConfig}
    (hd : d.toJson.WellKeyed) (ho : o.WellKeyed) (h : resolve d o = .ok c) :
    resolve c.toDefinition o = .ok c ∧ resolve c.toDefinition (.obj []) = .ok c := by
  have hnil := resolve_toDefinition_nil h
  refine ⟨?_, hnil⟩
  have hsame : d.toJson.merge o = c.toDefinition.toJson.merge o →
      resolve c.toDefinition o = .ok c := by
    intro he
    rw [← h, resolve, resolve, SiteDefinition.override, SiteDefinition.override, he]
  cases o with
  | null =>
    rw [resolve, SiteDefinition.override, toJson_merge_nil] at hnil
    rwa [resolve, SiteDefinition.override, merge_null]
  | obj os => exact resolve_toDefinition_members hd ho h
  -- Anything else stands in place of the definition.
  | _ => exact hsame (by simp)

theorem resolve_toDefinition_loopback :
    ∃ c : SiteConfig, c.host = "[::1]" ∧
      resolve c.toDefinition
          (.obj [("host", .str " "), ("note", .null), ("search", .arr [.str "q"])]) = .ok c ∧
        resolve c.toDefinition (.obj []) = .ok c :=
  ⟨_, rfl, resolve_toDefinition
    (d := { SiteDefinition.empty with name := "Site", url := some "http://[::1]/" })
    (SiteDefinition.stable.wellKeyed
      (.obj [("name", .str "Site"), ("url", .str "http://[::1]/")]) _ rfl)
    (by simp [WellKeyed, WellKeyedMembers, WellKeyedItems]) rfl⟩

end SiteConfig

end Gleaner
