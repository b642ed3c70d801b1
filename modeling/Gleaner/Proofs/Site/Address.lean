import Gleaner.Proofs.Site.Resolve
import Gleaner.Proofs.Url.Host

/-!
The addresses of a configuration. Its own address is absolute and has a host, and its host is not
blank. The active address, which requests and links start from, is that address or what is given in
its place, whatever that is.
-/
namespace Gleaner

open Url

/-- An absolute address that has a host. -/
def Located (address : String) : Prop :=
  ∃ u host, Url.parse address = .ok u ∧ u.host? = some host

theorem hostOfUrl_eq_ok {address text : String} (h : hostOfUrl address = .ok text) :
    Located address ∧ Text.blank text = false := by
  unfold hostOfUrl at h
  split at h
  next => cases h
  next u hu =>
    split at h
    next username password host port hauthority =>
      have hhost : u.host? = some host := by rw [Url.host?, hauthority]; rfl
      obtain ⟨c, hc, hblank⟩ := host_of_parse hu host hhost
      cases Except.ok.inj h
      exact ⟨⟨u, host, hu, hhost⟩, Shown.blank_eq_false ⟨c, List.mem_append_left _ hc, hblank⟩⟩
    next => cases h

theorem exists_hostOfUrl {address : String} (h : Located address) :
    ∃ text, hostOfUrl address = .ok text := by
  obtain ⟨u, host, hu, hhost⟩ := h
  obtain ⟨⟨username, password, given, port⟩, hauthority, hgiven⟩ :=
    Option.bind_eq_some_iff.mp hhost
  cases hgiven
  unfold hostOfUrl
  rw [hu]
  simp only [hauthority]
  exact ⟨_, rfl⟩

namespace SiteConfig

theorem resolve_eq_ok_iff_override {d : SiteDefinition} {o : Json} {c : SiteConfig} :
    resolve d o = .ok c ↔ ∃ m, d.override o = .ok m ∧ ofDefinition m = .ok c :=
  bind_eq_ok

/-- A host that is not given is that of the address, and one that is given is not blank. -/
theorem blank_host {m : SiteDefinition} {c : SiteConfig} (h : ofDefinition m = .ok c) :
    Text.blank c.host = false := by
  obtain ⟨derived, _, hderived, hhost, _, _⟩ := ofDefinition_eq_ok h
  rw [hhost]
  cases hgiven : unlessBlank m.host with
  | none => exact (hostOfUrl_eq_ok hderived).2
  | some given => exact (unlessBlank_eq_some.mp hgiven).2

theorem exists_ofDefinition {m : SiteDefinition} :
    (∃ c, ofDefinition m = .ok c) ↔ ∃ url, unlessBlank m.url = some url ∧ Located url := by
  constructor
  · rintro ⟨c, hc⟩
    obtain ⟨derived, hurl, hderived, _⟩ := ofDefinition_eq_ok hc
    exact ⟨c.url, hurl, (hostOfUrl_eq_ok hderived).1⟩
  · rintro ⟨url, hurl, hlocated⟩
    obtain ⟨derived, hderived⟩ := exists_hostOfUrl hlocated
    simp only [ofDefinition, hurl, hderived]
    exact ⟨_, rfl⟩

/-- A definition has a configuration just when its address is absolute and has a host. The host of
the configuration is then not blank. What is given as the active address is not looked at: unless it
is blank it is taken, and so it has a host or not as it was given. -/
theorem resolve_located (d : SiteDefinition) (o : Json) :
    ((∃ c, resolve d o = .ok c) ↔
      ∃ m, d.override o = .ok m ∧ ∃ url, unlessBlank m.url = some url ∧ Located url) ∧
    ∀ c, resolve d o = .ok c →
      Located c.url ∧ Text.blank c.host = false ∧
      ∃ m, d.override o = .ok m ∧ c.activeUrl = (unlessBlank m.activateUrl).getD c.url ∧
        (Located c.activeUrl ↔ ∀ url, unlessBlank m.activateUrl = some url → Located url) := by
  constructor
  · simp only [resolve_eq_ok_iff_override, ← exists_ofDefinition]
    exact ⟨fun ⟨c, m, hm, hc⟩ => ⟨m, hm, c, hc⟩, fun ⟨m, hm, c, hc⟩ => ⟨c, m, hm, hc⟩⟩
  · intro c h
    obtain ⟨m, hm, hc⟩ := resolve_eq_ok_iff_override.mp h
    obtain ⟨derived, _, hderived, _, hactivate, _⟩ := ofDefinition_eq_ok hc
    have hlocated : Located c.url := (hostOfUrl_eq_ok hderived).1
    refine ⟨hlocated, blank_host hc, m, hm, by rw [activeUrl, hactivate], ?_⟩
    rw [activeUrl, hactivate]
    cases unlessBlank m.activateUrl with
    | none => simpa using hlocated
    | some url => simp

/-- An active address without a scheme is taken as it is. -/
theorem not_located_activeUrl :
    ¬ ∀ (d : SiteDefinition) (o : Json) (c : SiteConfig), d.toJson.WellKeyed → o.WellKeyed →
      resolve d o = .ok c → Located c.activeUrl := by
  intro h
  let d := { SiteDefinition.empty with name := "Site", url := some "http://[::1]/" }
  let o := Json.obj [("activateUrl", .str "mirror.tracker.test")]
  have hd : d.toJson.WellKeyed :=
    SiteDefinition.stable.wellKeyed
      (.obj [("name", .str "Site"), ("url", .str "http://[::1]/")]) _ rfl
  have ho : o.WellKeyed := by simp [o, Json.WellKeyed, Json.WellKeyedMembers]
  obtain ⟨u, _, hu, _⟩ := h d o _ hd ho rfl
  have hparse : Url.parse "mirror.tracker.test" = .error .noBase := rfl
  cases hparse.symm.trans hu

end SiteConfig

end Gleaner
