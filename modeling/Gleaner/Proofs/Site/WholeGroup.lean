import Gleaner.Proofs.Page.Projection
import Gleaner.Proofs.Site.Profile
import Gleaner.Proofs.Site.Visit

/-!
Steps of a profile that list no fields. Such a step finds what a whole page tells, save what earlier
steps have filled. So one plain step is the same as no steps at all
(`ReadySite.userInfo_withProfile`), and a step that is answered as it was before finds nothing new
(`ReadySite.mergeFilled_stepFound_again`).
-/
namespace Gleaner

open Web

variable {σ : Type}

namespace OrderedMap

variable {α : Type}

theorem only_keys (m : OrderedMap α) : m.only m.keys = m := by
  refine ext (List.filter_eq_self.mpr fun x hx => ?_)
  exact List.contains_iff_mem.mpr (Keyed.mem_keys_of_mem hx)

end OrderedMap

namespace Entity

theorem get?_mergeFilled_of_not_filled {e other : Entity} {name : String} {value : FieldValue}
    (hother : other.get? name = some value) (he : ¬ e.Filled name) :
    (e.mergeFilled other).get? name = some value := by
  rw [get?_mergeFilled, hother]
  cases hold : e.get? name with
  | none => rfl
  | some old =>
    have hzero : old.isZero = true := by simpa [filled_iff, hold] using he
    simp [filling, hzero]

/-- Merging what is there already changes nothing. -/
theorem mergeFilled_eq_self {e other : Entity}
    (h : ∀ name value, other.get? name = some value → e.get? name = some value) :
    e.mergeFilled other = e := by
  refine OrderedMap.ext_get? ?_ fun name => ?_
  · have hnone : (other.keys.filter fun name => !e.keys.contains name) = [] := by
      refine List.filter_eq_nil_iff.mpr fun name hname => ?_
      obtain ⟨value, hvalue⟩ := OrderedMap.mem_keys_iff.mp hname
      simpa using OrderedMap.mem_keys_iff.mpr ⟨value, h name value hvalue⟩
    rw [keys_mergeFilled, hnone, List.append_nil]
  · rw [get?_mergeFilled]
    cases hother : other.get? name with
    | none => rfl
    | some value =>
      rw [h name value hother]
      cases hz : value.isZero <;> simp [filling, hz]

end Entity

namespace ReadySite

section

variable {s : ReadySite}

theorem profilePage_some (s : ReadySite) (body : String) (format : PageFormat)
    (names : List String) :
    s.profilePage body format (some names) = (s.profilePage body format none).only names := by
  unfold profilePage sectionPage
  cases s.config.group? SiteConfig.profileGroup with
  | none => rfl
  | some group => exact Page.entity_some _ group names s.filters s.link

theorem keys_profilePage_none (s : ReadySite) (body : String) (format : PageFormat) :
    (s.profilePage body format none).keys = s.profileFields := by
  unfold profilePage sectionPage profileFields
  cases s.config.group? SiteConfig.profileGroup with
  | none => rfl
  | some group => exact Page.keys_entity_none _ group s.filters s.link

/-- A step that lists no fields wants all that is not filled. -/
theorem mem_stepFields_of_not_filled {profile : Entity} {step : ProfileStep} {name : String}
    (h : step.fields = []) (hname : name ∈ s.profileFields) (hfilled : ¬ profile.Filled name) :
    name ∈ s.stepFields profile step := by
  have hzero : (profile.get? name).all FieldValue.isZero = true := by
    simpa [Entity.filled_iff] using hfilled
  simp only [stepFields, h, List.isEmpty_nil, ↓reduceIte, List.mem_filter]
  exact ⟨hname, hzero⟩

theorem mem_profileFields_of_stepFields {profile : Entity} {step : ProfileStep} {name : String}
    (h : step.fields = []) (hname : name ∈ s.stepFields profile step) :
    name ∈ s.profileFields := by
  simp only [stepFields, h, List.isEmpty_nil, ↓reduceIte, List.mem_filter] at hname
  exact hname.1

theorem stepFields_empty {step : ProfileStep} (h : step.fields = []) :
    s.stepFields OrderedMap.empty step = s.profileFields := by
  simp only [stepFields, h, List.isEmpty_nil, ↓reduceIte]
  exact List.filter_eq_self.mpr fun name _ => rfl

/-- At first, a step that lists no fields finds all that the page tells. -/
theorem stepFound_empty {step : ProfileStep} (h : step.fields = []) (response : Response) :
    s.stepFound OrderedMap.empty step response =
      s.profilePage response.text step.format none := by
  rw [stepFound, stepFields_empty h, profilePage_some, ← keys_profilePage_none s response.text
    step.format, OrderedMap.only_keys]

/-- A step that lists no fields finds nothing new when it is answered a second time as it was
before. -/
theorem mergeFilled_stepFound_again {step : ProfileStep} (h : step.fields = []) (profile : Entity)
    (response : Response) :
    let after := profile.mergeFilled (s.stepFound profile step response)
    after.mergeFilled (s.stepFound after step response) = after := by
  intro after
  apply Entity.mergeFilled_eq_self
  intro name value hvalue
  rw [stepFound, profilePage_some, OrderedMap.get?_only] at hvalue
  split at hvalue
  next hname =>
    -- What is wanted again was not filled before either, so that the value is the one found then.
    have hunfilled : ¬ profile.Filled name := fun hfilled =>
      not_filled_of_mem_stepFields h hname (Entity.filled_mergeFilled.mpr (Or.inl hfilled))
    have hbefore : name ∈ s.stepFields profile step :=
      mem_stepFields_of_not_filled h (mem_profileFields_of_stepFields h hname) hunfilled
    refine Entity.get?_mergeFilled_of_not_filled ?_ hunfilled
    rw [stepFound, profilePage_some, OrderedMap.get?_only, if_pos hbefore, hvalue]
  next => cases hvalue

end

/-- The site with other steps for the profile. -/
def withProfile (s : ReadySite) (steps : Option (List ProfileStep)) : ReadySite :=
  { s with config := { s.config with profile := steps } }

theorem profileStep?_empty (s : ReadySite) (profile : Entity) :
    s.profileStep? profile .empty = some do
      let response ← s.send "UserInfo" (Request.get "")
      return s.stepFound profile .empty response := rfl

theorem profileSteps_singleton (s : ReadySite) (profile : Entity) :
    s.profileSteps profile [.empty] = s.send "UserInfo" (Request.get "") >>= fun response =>
      pure (profile.mergeFilled (s.stepFound profile .empty response)) := by
  rw [profileSteps, profileStep?_empty]
  simp only [bind_assoc, pure_bind, profileSteps]

/-- One step without an address, an assertion or fields does what is done without steps. -/
theorem userInfo_withProfile {s : ReadySite} (h : s.config.profile.getD [] = []) :
    (s.withProfile (some [.empty])).userInfo = s.userInfo := by
  have hsteps : (s.withProfile (some [.empty])).userInfo =
      (s.withProfile (some [.empty])).profileSteps OrderedMap.empty [.empty] := rfl
  rw [hsteps, profileSteps_singleton, userInfo, h]
  have hfields : ProfileStep.empty.fields = [] := rfl
  simp only [Entity.empty_mergeFilled, stepFound_empty hfields]
  rfl

/-- A plain step whose request passes finds what is new in the response. -/
theorem run_profileStep?_empty {s : ReadySite} {web : Web σ} {w : σ} {response : Response}
    (hpass : Exchange.Passes s web ⟨Request.get "", w⟩ response) (profile : Entity) :
    ∃ visit next, s.profileStep? profile .empty = some visit ∧
      visit.run web w = (.ok (s.stepFound profile .empty response), next) := by
  have hsend : ((s.send "UserInfo" (Request.get "")).run web w).1 = .ok response :=
    Exchange.run_send_of_passes hpass
  obtain ⟨⟨result, next⟩, hrun⟩ :
      ∃ sent, (s.send "UserInfo" (Request.get "")).run web w = sent := ⟨_, rfl⟩
  rw [hrun] at hsend
  cases hsend
  refine ⟨_, next, s.profileStep?_empty profile, ?_⟩
  rw [Visit.bind_eq, Visit.run_bind, hrun]
  rfl

theorem turns_of_passes {s : ReadySite} {web : Web σ} {w : σ} {response : Response}
    (hpass : Exchange.Passes s web ⟨Request.get "", w⟩ response) (profile : Entity)
    (steps : List ProfileStep) :
    ∃ next, s.turns web profile (.empty :: steps) w =
      s.turn web profile .empty w ::
        s.turns web (profile.mergeFilled (s.stepFound profile .empty response)) steps next := by
  obtain ⟨visit, next, hstep, hrun⟩ := run_profileStep?_empty hpass profile
  refine ⟨next, ?_⟩
  rw [turns, hstep]
  simp only [hrun]

theorem found_of_passes {s : ReadySite} {web : Web σ} {profile : Entity} {steps : List ProfileStep}
    {w : σ} {t : ProfileTurn σ} (h : t ∈ s.turns web profile steps w) (hstep : t.step = .empty)
    {response : Response} (hpass : Exchange.Passes s web ⟨Request.get "", t.web⟩ response) :
    t.found = some (.ok (s.stepFound t.profile .empty response)) := by
  obtain ⟨visit, next, hvisit, hrun⟩ := run_profileStep?_empty hpass t.profile
  rw [found_of_mem_turns h, hstep, hvisit, Option.map_some, hrun]

/-- A turn leaves the profile that the next one starts from. -/
theorem onto_of_profileTurns {s : ReadySite} {web : Web σ} {w : σ}
    {before after : List (ProfileTurn σ)} {t₁ t₂ : ProfileTurn σ}
    (h : s.profileTurns web w = before ++ t₁ :: t₂ :: after) :
    ProfileTurn.onto t₁.profile t₁ = .ok t₂.profile := by
  have hsplit : s.profileTurns web w = (before ++ [t₁]) ++ t₂ :: after := by simpa using h
  have hnext := profile_of_profileTurns hsplit
  rw [List.foldlM_append, profile_of_profileTurns h] at hnext
  simp only [List.foldlM_cons, List.foldlM_nil, bind_pure] at hnext
  exact hnext

/-- The second of two plain steps that are answered alike leaves the profile as it is. -/
theorem found_again {s : ReadySite} {web : Web σ} {w : σ} {before after : List (ProfileTurn σ)}
    {t₁ t₂ : ProfileTurn σ} (h : s.profileTurns web w = before ++ t₁ :: t₂ :: after)
    (h₁ : t₁.step = .empty) (h₂ : t₂.step = .empty) {response : Response}
    (hpass₁ : Exchange.Passes s web ⟨Request.get "", t₁.web⟩ response)
    (hpass₂ : Exchange.Passes s web ⟨Request.get "", t₂.web⟩ response) :
    ∃ found, t₂.found = some (.ok found) ∧ t₂.profile.mergeFilled found = t₂.profile := by
  have hmem₁ : t₁ ∈ s.profileTurns web w := by simp [h]
  have hmem₂ : t₂ ∈ s.profileTurns web w := by simp [h]
  have honto := onto_of_profileTurns h
  rw [ProfileTurn.onto, found_of_passes hmem₁ h₁ hpass₁] at honto
  have hnext := (Except.ok.inj honto).symm
  refine ⟨_, found_of_passes hmem₂ h₂ hpass₂, ?_⟩
  rw [hnext]
  exact mergeFilled_stepFound_again rfl t₁.profile response

end ReadySite

namespace Site

theorem visit_of_ready_error {site : Site} {e : SiteError} (h : site.ready = .error e)
    {α : Type} (f : ReadySite → SiteVisit α) : site.visit f = .done (.error e) := by
  rw [visit, h]
  rfl

/-- A configuration without steps for the profile finds the same about the user as with one plain
step, or fails alike, with the same requests, whatever the web answers; so do sites with these
configurations, those that are never ready too. And a run over steps answers what its turns make of
the empty profile, and of two plain steps one after another in it that are answered with the same
response the second leaves the profile as it is. -/
theorem userInfo_paths_agree :
    (∀ s : ReadySite, s.config.profile = none ∨ s.config.profile = some [] →
      ∀ (σ : Type) (web : Web σ) (w : σ),
        s.userInfo.run web w = (s.withProfile (some [.empty])).userInfo.run web w ∧
        s.userInfo.sent web w = (s.withProfile (some [.empty])).userInfo.sent web w) ∧
    (∀ site plain : Site,
      (∀ s, site.ready = .ok s → s.config.profile = none ∨ s.config.profile = some []) →
      plain.ready = site.ready.map (·.withProfile (some [.empty])) →
      ∀ (σ : Type) (web : Web σ) (w : σ),
        site.userInfo.run web w = plain.userInfo.run web w ∧
        site.userInfo.sent web w = plain.userInfo.sent web w) ∧
    ∀ (s : ReadySite) (σ : Type) (web : Web σ) (w : σ) (before after : List (ProfileTurn σ))
      (t₁ t₂ : ProfileTurn σ), s.profileTurns web w = before ++ t₁ :: t₂ :: after →
      t₁.step = .empty → t₂.step = .empty → ∀ response,
      Exchange.Passes s web ⟨Request.get "", t₁.web⟩ response →
      Exchange.Passes s web ⟨Request.get "", t₂.web⟩ response →
      (s.userInfo.run web w).1 =
        (s.profileTurns web w).foldlM ProfileTurn.onto OrderedMap.empty ∧
      (before ++ [t₁]).foldlM ProfileTurn.onto OrderedMap.empty = .ok t₂.profile ∧
      ∃ found, t₂.found = some (.ok found) ∧ t₂.profile.mergeFilled found = t₂.profile := by
  have hready : ∀ s : ReadySite, s.config.profile = none ∨ s.config.profile = some [] →
      (s.withProfile (some [.empty])).userInfo = s.userInfo := by
    intro s h
    have hnone : s.config.profile.getD [] = [] := by rcases h with h | h <;> rw [h] <;> rfl
    exact ReadySite.userInfo_withProfile hnone
  refine ⟨fun s h σ web w => by rw [hready s h]; exact ⟨rfl, rfl⟩, ?_, ?_⟩
  · intro site plain hprofile hplain σ web w
    have hsame : site.userInfo = plain.userInfo := by
      cases hs : site.ready with
      | error e =>
        rw [hs] at hplain
        rw [userInfo, userInfo, visit_of_ready_error hs, visit_of_ready_error hplain]
      | ok s =>
        rw [hs] at hplain
        rw [userInfo, userInfo, visit_of_ready hs, visit_of_ready hplain,
          hready s (hprofile s hs)]
    rw [hsame]
    exact ⟨rfl, rfl⟩
  · intro s σ web w before after t₁ t₂ h h₁ h₂ response hpass₁ hpass₂
    have hsteps : s.config.profile.getD [] ≠ [] := fun hnil => by
      simp [ReadySite.profileTurns_of_nil hnil] at h
    have hsplit : s.profileTurns web w = (before ++ [t₁]) ++ t₂ :: after := by simpa using h
    exact ⟨ReadySite.foldlM_profileTurns hsteps w, ReadySite.profile_of_profileTurns hsplit,
      ReadySite.found_again h h₁ h₂ hpass₁ hpass₂⟩

/-- A site that reads one field of the user. -/
def greetingSite (steps : Option (List ProfileStep)) : Site where
  definition := { SiteDefinition.empty with
    name := "Site", url := some "http://[::1]/", profile := steps,
    groups := .ofList [("userInfo", .ofList [("name", FieldQuery.ofSelectors (.one "b"))])] }
  options := .ofFilters .empty

/-- Answers everything with a page that greets the user. -/
def greeting : Web Unit := fun m u =>
  (.ok ⟨200, m.url, [], none, some (Utf8.encode "Hello <b>ann</b>".toList), .utf8⟩, u)

theorem userInfo_paths_agree_greeting :
    (∃ s, (greetingSite none).ready = .ok s ∧
      s.userInfo.sent greeting () =
        (s.withProfile (some [.empty])).userInfo.sent greeting ()) ∧
    ((greetingSite none).userInfo.run greeting () =
      (greetingSite (some [.empty])).userInfo.run greeting () ∧
      (greetingSite none).userInfo.sent greeting () =
        (greetingSite (some [.empty])).userInfo.sent greeting ()) ∧
    ∃ s t₁ t₂, (greetingSite (some [.empty, .empty])).ready = .ok s ∧
      s.profileTurns greeting () = [t₁, t₂] ∧
      (s.userInfo.run greeting ()).1 = [t₁, t₂].foldlM ProfileTurn.onto OrderedMap.empty ∧
      ∃ found, t₂.found = some (.ok found) ∧ t₂.profile.mergeFilled found = t₂.profile := by
  refine ⟨?_, ?_, ?_⟩
  · obtain ⟨s, hs, hsteps⟩ : ∃ s, (greetingSite none).ready = .ok s ∧ s.config.profile = none :=
      ⟨_, rfl, rfl⟩
    exact ⟨s, hs, (userInfo_paths_agree.1 s (Or.inl hsteps) Unit greeting ()).2⟩
  · refine userInfo_paths_agree.2.1 _ _ (fun s hs => ?_) rfl Unit greeting ()
    cases hs
    exact Or.inl rfl
  · have hok : ((greetingSite (some [.empty, .empty])).ready.toOption.map fun s =>
        ((s.send "UserInfo" (Request.get "")).run greeting ()).1.isOk) = some true := by
      decide +kernel
    obtain ⟨s, hs, hsteps⟩ : ∃ s, (greetingSite (some [.empty, .empty])).ready = .ok s ∧
        s.config.profile.getD [] = [.empty, .empty] := ⟨_, rfl, rfl⟩
    rw [hs] at hok
    obtain ⟨response, -, hpass⟩ | ⟨e, he, -⟩ :=
      Exchange.run_send s "UserInfo" (Request.get "") greeting ()
    · obtain ⟨⟨⟩, hfirst⟩ := ReadySite.turns_of_passes hpass OrderedMap.empty [.empty]
      obtain ⟨⟨⟩, hsecond⟩ := ReadySite.turns_of_passes hpass
        (Entity.mergeFilled OrderedMap.empty (s.stepFound OrderedMap.empty .empty response)) []
      have hturns := hfirst.trans (congrArg _ hsecond)
      rw [← hsteps] at hturns
      obtain ⟨hrun, -, hfound⟩ := userInfo_paths_agree.2.2 s Unit greeting () [] [] _ _ hturns rfl
        rfl response hpass hpass
      exact ⟨s, _, _, hs, hturns, hrun.trans (congrArg _ hturns), hfound⟩
    · have hok : ((s.send "UserInfo" (Request.get "")).run greeting ()).1.isOk = true :=
        Option.some.inj hok
      rw [he] at hok
      cases hok

end Site

end Gleaner
