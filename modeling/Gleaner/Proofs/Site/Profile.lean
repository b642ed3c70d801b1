import Gleaner.Proofs.Entity
import Gleaner.Site.Visit

/-!
Runs over the steps of a profile. A run is followed turn by turn (`ReadySite.turns`); what it
answers and what it sends are read off its turns (`run_profileSteps`, `sent_profileSteps`). From
what one turn does to the profile follows what a whole run keeps.
-/
namespace Gleaner

open Web

variable {σ : Type}

/-- A step as a run comes to it: the profile and the state of the web before it, and what it found.
It found nothing when it was passed over. -/
structure ProfileTurn (σ : Type) where
  step : ProfileStep
  profile : Entity
  web : σ
  found : Option (Except SiteError Entity)

/-- A profile after a turn. -/
def ProfileTurn.onto (profile : Entity) (t : ProfileTurn σ) : Except SiteError Entity :=
  match t.found with
  | none => .ok profile
  | some found => found.map profile.mergeFilled

namespace ReadySite

/-- The turn of one step. -/
def turn (s : ReadySite) (web : Web σ) (profile : Entity) (step : ProfileStep) (w : σ) :
    ProfileTurn σ :=
  ⟨step, profile, w, (s.profileStep? profile step).map fun visit => (visit.run web w).1⟩

/-- The turns of a run over steps. It ends early with one that fails. -/
def turns (s : ReadySite) (web : Web σ) (profile : Entity) :
    List ProfileStep → σ → List (ProfileTurn σ)
  | [], _ => []
  | step :: rest, w =>
    s.turn web profile step w ::
      match s.profileStep? profile step with
      | none => s.turns web profile rest w
      | some visit =>
        match visit.run web w with
        | (.error _, _) => []
        | (.ok found, next) => s.turns web (profile.mergeFilled found) rest next

/-- The messages that are sent in a turn. -/
def sentIn (s : ReadySite) (web : Web σ) (t : ProfileTurn σ) : List Message :=
  match s.profileStep? t.profile t.step with
  | none => []
  | some visit => visit.sent web t.web

/-- The turns of the whole profile. -/
def profileTurns (s : ReadySite) (web : Web σ) (w : σ) : List (ProfileTurn σ) :=
  s.turns web OrderedMap.empty (s.config.profile.getD []) w

section
variable {s : ReadySite} {web : Web σ}

theorem run_profileSteps (profile : Entity) (steps : List ProfileStep) (w : σ) :
    ((s.profileSteps profile steps).run web w).1 =
      (s.turns web profile steps w).foldlM ProfileTurn.onto profile := by
  induction steps generalizing profile w with
  | nil => rfl
  | cons step rest ih =>
    rw [profileSteps, turns, List.foldlM_cons, turn]
    cases s.profileStep? profile step with
    | none => exact ih profile w
    | some visit =>
      change ((visit.bind _).run web w).1 = _
      rw [Visit.run_bind, Option.map_some]
      simp only []
      obtain ⟨r, next⟩ := visit.run web w
      cases r with
      | error e => rfl
      | ok found => exact ih (profile.mergeFilled found) next

theorem sent_profileSteps (profile : Entity) (steps : List ProfileStep) (w : σ) :
    (s.profileSteps profile steps).sent web w =
      (s.turns web profile steps w).flatMap (s.sentIn web) := by
  induction steps generalizing profile w with
  | nil => rfl
  | cons step rest ih =>
    rw [profileSteps, turns, List.flatMap_cons, sentIn, turn]
    cases s.profileStep? profile step with
    | none => exact ih profile w
    | some visit =>
      change (visit.bind _).sent web w = _
      rw [Visit.sent_bind]
      refine congrArg (visit.sent web w ++ ·) ?_
      simp only []
      obtain ⟨r, next⟩ := visit.run web w
      cases r with
      | error e => rfl
      | ok found => exact ih (profile.mergeFilled found) next

/-- A turn starts from the profile that the turns before it made. -/
theorem profile_of_turns {profile : Entity} {steps : List ProfileStep} {w : σ}
    {before after : List (ProfileTurn σ)} {t : ProfileTurn σ}
    (h : s.turns web profile steps w = before ++ t :: after) :
    before.foldlM ProfileTurn.onto profile = .ok t.profile := by
  induction steps generalizing profile w before with
  | nil => simp [turns] at h
  | cons step rest ih =>
    rw [turns] at h
    cases before with
    | nil =>
      obtain ⟨rfl, _⟩ := List.cons.inj h
      rfl
    | cons first before =>
      obtain ⟨hfirst, h⟩ := List.cons.inj h
      rw [List.foldlM_cons, ← hfirst, turn]
      cases hstep : s.profileStep? profile step with
      | none =>
        rw [hstep] at h
        exact ih h
      | some visit =>
        cases hrun : visit.run web w with
        | mk r next =>
          simp only [hstep, hrun] at h
          simp only [Option.map_some, hrun]
          cases r with
          | error e => simp at h
          | ok found => exact ih h

/-- What was found in a turn is what its step finds from there. -/
theorem found_of_mem_turns {profile : Entity} {steps : List ProfileStep} {w : σ}
    {t : ProfileTurn σ} (h : t ∈ s.turns web profile steps w) :
    t.found = (s.profileStep? t.profile t.step).map fun visit => (visit.run web t.web).1 := by
  induction steps generalizing profile w with
  | nil => simp [turns] at h
  | cons step rest ih =>
    rw [turns] at h
    rcases List.mem_cons.mp h with rfl | h
    · rfl
    · split at h
      next => exact ih h
      next =>
        split at h
        next => simp at h
        next => exact ih h

/-- What holds of a merged profile just when it holds of a side holds of the profile that a run ends
with just when it held before the run or holds of something that was found in it. -/
theorem of_foldlM_onto {P : Entity → Prop}
    (hP : ∀ e other : Entity, P (e.mergeFilled other) ↔ P e ∨ P other)
    {ts : List (ProfileTurn σ)} {profile e : Entity}
    (h : ts.foldlM ProfileTurn.onto profile = .ok e) :
    P e ↔ P profile ∨ ∃ t ∈ ts, ∃ found, t.found = some (.ok found) ∧ P found := by
  induction ts generalizing profile with
  | nil =>
    cases h
    simp
  | cons t ts ih =>
    rw [List.foldlM_cons, ProfileTurn.onto] at h
    cases ht : t.found with
    | none =>
      rw [ht] at h
      rw [ih h]
      simp [ht]
    | some r =>
      rw [ht] at h
      cases r with
      | error error => cases h
      | ok found =>
        rw [ih h, hP, or_assoc]
        simp [ht]

theorem mem_keys_profilePage {body : String} {format : PageFormat} {only : Option (List String)}
    {name : String} :
    name ∈ (s.profilePage body format only).keys ↔
      name ∈ s.profileFields ∧ only.all (fun names => names.contains name) = true := by
  unfold profilePage sectionPage profileFields
  cases s.config.group? SiteConfig.profileGroup with
  | none => simp [OrderedMap.keys, OrderedMap.empty]
  | some group => simp [Page.summary, Page.mem_keys_entity]

/-- What is found in a turn are fields of the profile that its step extracts. -/
theorem mem_keys_found {profile : Entity} {steps : List ProfileStep} {w : σ} {t : ProfileTurn σ}
    (h : t ∈ s.turns web profile steps w) {found : Entity} (hf : t.found = some (.ok found))
    {name : String} (hn : name ∈ found.keys) :
    name ∈ s.profileFields ∧ name ∈ s.stepFields t.profile t.step := by
  rw [found_of_mem_turns h] at hf
  obtain ⟨visit, hvisit, hrun⟩ := Option.map_eq_some_iff.mp hf
  obtain ⟨params, _, rfl⟩ := Option.map_eq_some_iff.mp hvisit
  obtain ⟨response, _, _, hfound⟩ := Visit.run_bind_eq_ok hrun
  cases hfound
  simpa using mem_keys_profilePage.mp hn

/-- A step that lists no fields asks only for what is not filled. -/
theorem not_filled_of_mem_stepFields {profile : Entity} {step : ProfileStep} {name : String}
    (h : step.fields = []) (hn : name ∈ s.stepFields profile step) : ¬ profile.Filled name := by
  simp only [stepFields, h, List.isEmpty_nil, ↓reduceIte, List.mem_filter] at hn
  rw [Entity.filled_iff, hn.2]
  simp

theorem mem_stepFields_of_listed {profile : Entity} {step : ProfileStep} {name : String}
    (h : step.fields ≠ []) : name ∈ s.stepFields profile step ↔ name ∈ step.fields := by
  have hne : step.fields.isEmpty = false := by simpa using h
  simp only [stepFields, hne, Bool.false_eq_true, ↓reduceIte]

theorem userInfo_of_steps (h : s.config.profile.getD [] ≠ []) :
    s.userInfo = s.profileSteps OrderedMap.empty (s.config.profile.getD []) := by
  unfold userInfo
  split
  next hnil => exact absurd hnil h
  next => rfl

/-- Without steps, a profile is what the first page tells. -/
theorem exists_page_of_run_userInfo (h : s.config.profile.getD [] = []) {w : σ} {e : Entity}
    (he : (s.userInfo.run web w).1 = .ok e) : ∃ body, e = s.profilePage body .document none := by
  rw [userInfo, h] at he
  obtain ⟨response, _, _, hpage⟩ := Visit.run_bind_eq_ok he
  cases hpage
  exact ⟨_, rfl⟩

theorem foldlM_profileTurns (h : s.config.profile.getD [] ≠ []) (w : σ) :
    (s.userInfo.run web w).1 = (s.profileTurns web w).foldlM ProfileTurn.onto OrderedMap.empty := by
  rw [userInfo_of_steps h, run_profileSteps]
  rfl

theorem sent_profileTurns (h : s.config.profile.getD [] ≠ []) (w : σ) :
    s.userInfo.sent web w = (s.profileTurns web w).flatMap (s.sentIn web) := by
  rw [userInfo_of_steps h, sent_profileSteps]
  rfl

theorem profileTurns_of_nil (h : s.config.profile.getD [] = []) (w : σ) :
    s.profileTurns web w = [] := by
  rw [profileTurns, h, turns]

/-- A profile has filled what some step found filled, and nothing else. -/
theorem filled_userInfo (h : s.config.profile.getD [] ≠ []) {w : σ} {e : Entity}
    (he : (s.userInfo.run web w).1 = .ok e) {name : String} :
    e.Filled name ↔
      ∃ t ∈ s.profileTurns web w, ∃ found, t.found = some (.ok found) ∧ found.Filled name := by
  rw [foldlM_profileTurns h] at he
  rw [of_foldlM_onto (P := fun e => e.Filled name) (fun _ _ => Entity.filled_mergeFilled) he]
  simp [Entity.not_filled_empty]

theorem mem_profileFields_of_run {w : σ} {e : Entity} (he : (s.userInfo.run web w).1 = .ok e)
    {name : String} (hn : name ∈ e.keys) : name ∈ s.profileFields := by
  by_cases h : s.config.profile.getD [] = []
  · obtain ⟨body, rfl⟩ := exists_page_of_run_userInfo h he
    exact (mem_keys_profilePage.mp hn).1
  · rw [foldlM_profileTurns h] at he
    have hkeys := of_foldlM_onto (P := fun e => name ∈ e.keys)
      (fun _ _ => Entity.mem_keys_mergeFilled) he
    rcases hkeys.mp hn with hn | ⟨t, ht, found, hf, hn⟩
    · cases hn
    · exact (mem_keys_found ht hf hn).1

/-- A turn of a run starts from what the turns before it have made of the empty profile. -/
theorem profile_of_profileTurns {w : σ} {before after : List (ProfileTurn σ)} {t : ProfileTurn σ}
    (h : s.profileTurns web w = before ++ t :: after) :
    before.foldlM ProfileTurn.onto OrderedMap.empty = .ok t.profile :=
  profile_of_turns h

/-- Nothing of a profile is lost. A run over steps answers what its turns make of the empty profile
one after another, and sends what is sent in them. What a step finds never blanks a filled field; a
step that lists no fields leaves the filled ones as they are, and one that lists some touches only
those of them that tell about the user. So a run that succeeds ends with all that any step has
filled. -/
theorem profile_kept (s : ReadySite) (web : Web σ) (w : σ) :
    (s.config.profile.getD [] ≠ [] →
      (s.userInfo.run web w).1 =
        (s.profileTurns web w).foldlM ProfileTurn.onto OrderedMap.empty ∧
      s.userInfo.sent web w = (s.profileTurns web w).flatMap (s.sentIn web)) ∧
    (∀ before t after, s.profileTurns web w = before ++ t :: after →
      before.foldlM ProfileTurn.onto OrderedMap.empty = .ok t.profile ∧
      ∀ found, t.found = some (.ok found) →
        (∀ name, t.profile.Filled name → (t.profile.mergeFilled found).Filled name) ∧
        (t.step.fields = [] → ∀ name, t.profile.Filled name →
          (t.profile.mergeFilled found).get? name = t.profile.get? name) ∧
        (t.step.fields ≠ [] → ∀ name,
          (t.profile.mergeFilled found).get? name ≠ t.profile.get? name →
            name ∈ t.step.fields ∧ name ∈ s.profileFields)) ∧
    ∀ e, (s.userInfo.run web w).1 = .ok e →
      (∀ t ∈ s.profileTurns web w, ∀ found, t.found = some (.ok found) →
        ∀ name, found.Filled name → e.Filled name) ∧
      ∀ name ∈ e.keys, name ∈ s.profileFields := by
  refine ⟨fun hsteps => ⟨foldlM_profileTurns hsteps w, sent_profileTurns hsteps w⟩, ?_, ?_⟩
  · intro before t after hsplit
    refine ⟨profile_of_profileTurns hsplit, fun found hf => ?_⟩
    have ht : t ∈ s.profileTurns web w := by simp [hsplit]
    refine ⟨fun name h => Entity.filled_mergeFilled.mpr (Or.inl h), ?_, ?_⟩
    · intro hall name hfilled
      apply Entity.get?_mergeFilled_of_not_mem
      intro hn
      exact not_filled_of_mem_stepFields hall (mem_keys_found ht hf hn).2 hfilled
    · intro hlisted name hchanged
      have hn : name ∈ found.keys := by
        by_cases hn : name ∈ found.keys
        · exact hn
        · exact absurd (Entity.get?_mergeFilled_of_not_mem hn) hchanged
      obtain ⟨hprofile, hstep⟩ := mem_keys_found ht hf hn
      exact ⟨(mem_stepFields_of_listed hlisted).mp hstep, hprofile⟩
  · intro e he
    refine ⟨?_, fun name hn => mem_profileFields_of_run he hn⟩
    intro t ht found hf name hfilled
    by_cases hsteps : s.config.profile.getD [] = []
    · simp [profileTurns_of_nil hsteps] at ht
    · exact (filled_userInfo hsteps he).mpr ⟨t, ht, found, hf, hfilled⟩

/-! ### Assertions -/

theorem isSome_mapM {α β : Type} {f : α → Option β} {xs : List α} :
    (xs.mapM f).isSome = true ↔ ∀ x ∈ xs, (f x).isSome = true := by
  induction xs with
  | nil => simp
  | cons x xs ih =>
    rw [List.mapM_cons, List.forall_mem_cons, ← ih]
    cases f x with
    | none => simp
    | some y => cases xs.mapM f <;> simp

theorem isSome_assertedParams? {profile : Entity} {assertion : List (String × String)} :
    (assertedParams? profile assertion).isSome = true ↔
      ∀ a ∈ assertion, ∃ v, profile.get? a.1 = some v ∧ v.isEmpty = false := by
  rw [assertedParams?, isSome_mapM]
  refine forall₂_congr fun a _ => ?_
  rw [Option.isSome_map]
  cases profile.get? a.1 with
  | none => simp
  | some v => cases hv : v.isEmpty <;> simp [Option.filter, hv]

/-- The number 0 is a zero value and yet not empty. -/
theorem isEmpty_eq_false_iff {v : FieldValue} :
    v.isEmpty = false ↔ v.isZero = false ∨ ∃ x, v = .number x ∧ (x == 0.0) = true := by
  cases v with
  | text t => simp [FieldValue.isEmpty, FieldValue.isZero]
  | number x => cases hx : x == 0.0 <;> simp [FieldValue.isEmpty, FieldValue.isZero, hx]

/-- An assertion wants every field of it filled, and takes the number 0 for filled. -/
theorem isSome_profileStep? {profile : Entity} {step : ProfileStep} :
    (s.profileStep? profile step).isSome = true ↔
      ∀ a ∈ step.assertion.entries,
        profile.Filled a.1 ∨ ∃ x, profile.get? a.1 = some (.number x) ∧ (x == 0.0) = true := by
  rw [profileStep?, Option.isSome_map, isSome_assertedParams?]
  refine forall₂_congr fun a _ => ?_
  simp only [isEmpty_eq_false_iff, Entity.Filled]
  constructor
  · rintro ⟨v, hv, hzero | ⟨x, rfl, hx⟩⟩
    · exact Or.inl ⟨v, hv, hzero⟩
    · exact Or.inr ⟨x, hv, hx⟩
  · rintro (⟨v, hv, hzero⟩ | ⟨x, hv, hx⟩)
    · exact ⟨v, hv, Or.inl hzero⟩
    · exact ⟨_, hv, Or.inr ⟨x, rfl, hx⟩⟩

/-- A step is not passed over just when each field of its assertion is filled, or is the number 0,
in the profile that the earlier steps made. All requests of a run are those of such steps. -/
theorem profile_asserted (s : ReadySite) (web : Web σ) (w : σ) :
    (∀ before t after, s.profileTurns web w = before ++ t :: after →
      before.foldlM ProfileTurn.onto OrderedMap.empty = .ok t.profile ∧
      (t.found.isSome = true ↔ ∀ a ∈ t.step.assertion.entries,
        t.profile.Filled a.1 ∨ ∃ x, t.profile.get? a.1 = some (.number x) ∧ (x == 0.0) = true)) ∧
    (s.config.profile.getD [] ≠ [] → ∀ m ∈ s.userInfo.sent web w,
      ∃ t ∈ s.profileTurns web w, t.found.isSome = true ∧ m ∈ s.sentIn web t) := by
  constructor
  · intro before t after hsplit
    refine ⟨profile_of_profileTurns hsplit, ?_⟩
    have ht : t ∈ s.profileTurns web w := by simp [hsplit]
    rw [found_of_mem_turns ht, Option.isSome_map, isSome_profileStep?]
  · intro hsteps m hm
    rw [userInfo_of_steps hsteps, sent_profileSteps] at hm
    obtain ⟨t, ht, hm⟩ := List.mem_flatMap.mp hm
    refine ⟨t, ht, ?_, hm⟩
    rw [found_of_mem_turns ht]
    unfold sentIn at hm
    cases hstep : s.profileStep? t.profile t.step with
    | none => simp [hstep] at hm
    | some visit => rfl

end

/-- A site whose second step wants the number that the first one looks for. -/
def numberedSite : ReadySite where
  config :=
    let request := { RequestTemplate.empty with url := some "http://[::1]/" }
    { name := "Site", aka := [], description := none, url := "http://[::1]/", activateUrl := none,
      host := "[::1]", timezoneOffset := none, tags := [], collaborator := none,
      authPolicy := .everyone, search := .empty,
      profile := some [⟨request, OrderedMap.empty, ["id"], .json⟩,
        ⟨request, OrderedMap.ofList [("id", "id")], [], .json⟩],
      groups := OrderedMap.ofList [("userInfo",
        OrderedMap.ofList [("id", ⟨.one "id", none, none, [.named "parse_number"]⟩)])],
      detailPath := none }
  filters := FilterRegistry.ofList [("parse_number", Filter.ofReader Number.parse)]
  headers := OrderedMap.empty

/-- Answers everything with an empty object. -/
def blankWeb : Web Unit := fun m u => (.ok ⟨200, m.url, [], none, some [0x7b, 0x7d], .utf8⟩, u)

/-- A number that was not found passes for found, and the request that wants it is sent. -/
theorem not_profile_asserted_filled :
    ¬ ∀ (s : ReadySite) (web : Web Unit), ∀ t ∈ s.profileTurns web (), s.sentIn web t ≠ [] →
      ∀ a ∈ t.step.assertion.entries, t.profile.Filled a.1 := by
  intro h
  have hmissed : ∃ t ∈ numberedSite.profileTurns blankWeb (), numberedSite.sentIn blankWeb t ≠ [] ∧
      ∃ a ∈ t.step.assertion.entries, ¬ t.profile.Filled a.1 := by decide +kernel
  obtain ⟨t, ht, hsent, a, ha, hfilled⟩ := hmissed
  exact hfilled (h numberedSite blankWeb t ht hsent a ha)

end ReadySite

end Gleaner
