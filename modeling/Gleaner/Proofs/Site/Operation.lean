import Gleaner.Proofs.Site.Session

/-!
The operations on a site that ask something of a web. Each is a session (`Operation.visit_eq`), so
that the gates guard all of them alike (`Site.run_operation`).
-/
namespace Gleaner

open Web

variable {α σ : Type}

/-- Operations, by what they find. -/
inductive Operation : Type → Type where
  | request (r : Request) : Operation Response
  | search (filter : SearchFilter) : Operation (List Entity)
  | userInfo : Operation Entity
  | ping : Operation Bool

/-- The steps of a profile. Those whose assertion does not hold send nothing. -/
def ReadySite.profileSession (s : ReadySite) (profile : Entity) : List ProfileStep → Session Entity
  | [] => .done profile
  | step :: rest =>
    match ReadySite.assertedParams? profile step.assertion.entries with
    | none => s.profileSession profile rest
    | some params => .send (ReadySite.stepRequest step params) fun response =>
      s.profileSession (profile.mergeFilled (s.stepFound profile step response)) rest

namespace Operation

def name : Operation α → String
  | request _ => "Request"
  | search _ => "Search"
  | userInfo => "UserInfo"
  | ping => "Ping"

def visit (site : Site) : Operation α → SiteVisit α
  | request r => site.request r
  | search filter => site.search filter
  | userInfo => site.userInfo
  | ping => site.ping

/-- What an operation asks of a site, and what it makes of the responses. -/
def session (s : ReadySite) : Operation α → Session α
  | request r => .send r .done
  | search filter =>
    .send (s.config.search.build filter) fun response => .done (s.searchPage response.text)
  | userInfo =>
    match s.config.profile.getD [] with
    | [] => .send (Request.get "") fun response =>
      .done (s.profilePage response.text .document none)
    | steps => s.profileSession OrderedMap.empty steps
  | ping => .send (Request.get "") fun _ => .done true

/-- What an operation ends with when a request of it fails. A ping wants to know just whether there
is a login. -/
def failure : Operation α → SiteError → Except SiteError α
  | ping, e => if e.kind = .authentication then .ok false else .error e
  | _, e => .error e

def settle (op : Operation α) : Except SiteError α → Except SiteError α
  | .ok result => .ok result
  | .error e => op.failure e

def exchanges (op : Operation α) (s : ReadySite) (web : Web σ) (w : σ) : List (Exchange σ) :=
  (op.session s).exchanges s op.name web w

theorem visit_profileSession (s : ReadySite) (profile : Entity) (steps : List ProfileStep) :
    (s.profileSession profile steps).visit s "UserInfo" = s.profileSteps profile steps := by
  induction steps generalizing profile with
  | nil => rfl
  | cons step rest ih =>
    rw [ReadySite.profileSession, ReadySite.profileSteps, ReadySite.profileStep?]
    cases ReadySite.assertedParams? profile step.assertion.entries with
    | none => exact ih profile
    | some params => simp only [Option.map_some, Session.visit, bind_assoc, pure_bind, ih]

theorem recover_settle {op : Operation α} (h : ∀ e, op.failure e = .error e) (v : SiteVisit α) :
    v.recover op.settle = v := by
  have hid : op.settle = id := by
    funext r
    cases r with
    | ok result => rfl
    | error e => exact h e
  rw [hid, Visit.recover_id]

/-- An operation on a site that is ready is its session. -/
theorem visit_eq {site : Site} {s : ReadySite} (h : site.ready = .ok s) (op : Operation α) :
    op.visit site = ((op.session s).visit s op.name).recover op.settle := by
  cases op with
  | request r =>
    rw [recover_settle fun _ => rfl, visit, Site.request, Site.visit_of_ready h]
    exact (bind_pure _).symm
  | search filter =>
    rw [recover_settle fun _ => rfl, visit, Site.search, Site.visit_of_ready h]
    rfl
  | userInfo =>
    rw [recover_settle fun _ => rfl, visit, Site.userInfo, Site.visit_of_ready h,
      ReadySite.userInfo, session, name]
    cases s.config.profile.getD [] with
    | nil => rfl
    | cons step rest => exact (visit_profileSession s OrderedMap.empty (step :: rest)).symm
  | ping =>
    rw [visit, Site.ping, Site.visit_of_ready h, ReadySite.ping]
    have hmap : (session s ping).visit s ping.name =
        (s.send "Ping" (Request.get "") >>= fun _ => pure true) := rfl
    rw [hmap, Visit.recover_map _ fun _ => true]
    refine congrArg (Visit.recover (s.send "Ping" (Request.get ""))) (funext fun r => ?_)
    cases r <;> rfl

end Operation

namespace Site

theorem visit_not_ready {site : Site} {e : ConfigError} (h : site.resolve = .error e)
    (op : Operation α) :
    op.visit site = .done (.error ⟨.config, site.name, "Config", some (.config e)⟩) := by
  cases op <;> exact visit_of_resolve_error h _

theorem ping_not_ready {site : Site} {e : ConfigError} (h : site.resolve = .error e) :
    site.ping = .done (.error ⟨.config, site.name, "Config", some (.config e)⟩) :=
  visit_of_resolve_error h _

/-- The ping of a ready site is one exchange. It is true when that passes, and may be false when it
fails. -/
theorem run_ping {site : Site} {s : ReadySite} (h : site.ready = .ok s) (web : Web σ) (w : σ) :
    (∃ response, Exchange.Passes s web ⟨Request.get "", w⟩ response ∧
      (site.ping.run web w).1 = .ok true) ∨
    ∃ e, Exchange.Fails s "Ping" web ⟨Request.get "", w⟩ e ∧
      (site.ping.run web w).1 = if e.kind = .authentication then .ok false else .error e := by
  rw [ping, visit_of_ready h, ReadySite.ping, Visit.run_recover]
  dsimp only
  rcases Exchange.run_send s "Ping" (Request.get "") web w with
    ⟨response, hrun, hpass⟩ | ⟨e, hrun, hfail⟩
  · rw [hrun]
    exact Or.inl ⟨response, hpass, rfl⟩
  · rw [hrun]
    exact Or.inr ⟨e, hfail, rfl⟩

theorem run_ping_eq_false_of_ready {site : Site} {s : ReadySite} (h : site.ready = .ok s)
    {web : Web σ} {w : σ} :
    (site.ping.run web w).1 = .ok false ↔ ∃ response,
      Exchange.Answered s web ⟨Request.get "", w⟩ response ∧ response.status ≤ 400 ∧
      s.config.authPolicy.accepts response = false := by
  rcases run_ping h web w with ⟨response, hpass, hrun⟩ | ⟨e, hfail, hrun⟩
  · rw [hrun]
    exact ⟨nofun, fun hl => absurd hl hpass.not_loggedOut⟩
  · rw [hrun, ← hfail.kind_eq_authentication]
    by_cases hkind : e.kind = .authentication <;> simp [hkind]

/-- A ping is false just when a response with a good status shows that nobody is logged in. -/
theorem run_ping_eq_false {site : Site} {web : Web σ} {w : σ} :
    (site.ping.run web w).1 = .ok false ↔ ∃ s response, site.ready = .ok s ∧
      Exchange.Answered s web ⟨Request.get "", w⟩ response ∧ response.status ≤ 400 ∧
      s.config.authPolicy.accepts response = false := by
  cases hresolve : site.resolve with
  | error e =>
    rw [ping_not_ready hresolve]
    refine ⟨nofun, ?_⟩
    rintro ⟨s, _, hready, _⟩
    rw [ready_of_resolve_error hresolve] at hready
    cases hready
  | ok c =>
    obtain ⟨s, hready⟩ := ready_of_resolve_ok hresolve
    rw [run_ping_eq_false_of_ready hready]
    constructor
    · rintro ⟨response, hloggedOut⟩
      exact ⟨s, response, hready, hloggedOut⟩
    · rintro ⟨s', response, hready', hloggedOut⟩
      cases hready.symm.trans hready'
      exact ⟨response, hloggedOut⟩

theorem kind_of_run_ping {site : Site} {web : Web σ} {w : σ} {e : SiteError}
    (he : (site.ping.run web w).1 = .error e) : e.kind ≠ .authentication := by
  cases hresolve : site.resolve with
  | error reason =>
    rw [ping_not_ready hresolve] at he
    cases he
    exact nofun
  | ok c =>
    obtain ⟨s, hready⟩ := ready_of_resolve_ok hresolve
    rcases run_ping hready web w with ⟨response, _, hrun⟩ | ⟨failure, _, hrun⟩
    · rw [hrun] at he
      cases he
    · rw [hrun] at he
      split at he
      next => cases he
      next hkind =>
        cases he
        exact hkind

/-- The run of an operation follows its exchanges. -/
theorem run_operation {site : Site} {s : ReadySite} (h : site.ready = .ok s) (web : Web σ) (w : σ)
    (op : Operation α) :
    (∃ responses result,
      List.Forall₂ (Exchange.Passes s web) (op.exchanges s web w) responses ∧
      (op.session s).answer? responses = some result ∧
      ((op.visit site).run web w).1 = .ok result) ∨
    ∃ before last responses e, op.exchanges s web w = before ++ [last] ∧
      List.Forall₂ (Exchange.Passes s web) before responses ∧
      last.Fails s op.name web e ∧
      ((op.visit site).run web w).1 = op.failure e := by
  rw [op.visit_eq h, Visit.run_recover]
  dsimp only
  rcases (op.session s).run_visit w with ⟨responses, result, hall, hanswer, hrun⟩ |
    ⟨before, last, responses, e, hsplit, hall, hfail, hrun⟩
  · exact Or.inl ⟨responses, result, hall, hanswer, by rw [hrun]; rfl⟩
  · exact Or.inr ⟨before, last, responses, e, hsplit, hall, hfail, by rw [hrun]; rfl⟩

/-- The gates guard every operation. On a site whose configuration does not resolve it fails, and
nothing is sent. On a ready site it sends the messages of its exchanges, one after another. Either
all of them pass, and it ends with what it makes of just their responses; or the last one fails, and
the operation with it. A ping is false just when a response with a good status shows no login, and
never fails for want of one. -/
theorem gates_guard (site : Site) (web : Web σ) (w : σ) :
    (∀ e, site.resolve = .error e → ∀ (α : Type) (op : Operation α),
      ((op.visit site).run web w).1 =
        .error ⟨.config, site.name, "Config", some (.config e)⟩ ∧
      (op.visit site).sent web w = []) ∧
    (∀ s, site.ready = .ok s → ∀ (α : Type) (op : Operation α),
      (op.visit site).sent web w = (op.exchanges s web w).filterMap (Exchange.outgoing? s) ∧
      ((∃ responses result,
        List.Forall₂ (Exchange.Passes s web) (op.exchanges s web w) responses ∧
        (op.session s).answer? responses = some result ∧
        ((op.visit site).run web w).1 = .ok result) ∨
      ∃ before last responses e, op.exchanges s web w = before ++ [last] ∧
        List.Forall₂ (Exchange.Passes s web) before responses ∧
        last.Fails s op.name web e ∧
        ((op.visit site).run web w).1 = op.failure e)) ∧
    ((site.ping.run web w).1 = .ok false ↔ ∃ s response, site.ready = .ok s ∧
      Exchange.Answered s web ⟨Request.get "", w⟩ response ∧ response.status ≤ 400 ∧
      s.config.authPolicy.accepts response = false) ∧
    ∀ e, (site.ping.run web w).1 = .error e → e.kind ≠ .authentication := by
  refine ⟨?_, ?_, run_ping_eq_false, fun e => kind_of_run_ping⟩
  · intro e hresolve α op
    rw [visit_not_ready hresolve op]
    exact ⟨rfl, rfl⟩
  · intro s hready α op
    refine ⟨?_, run_operation hready web w op⟩
    rw [op.visit_eq hready, Visit.sent_recover, Session.sent_visit, Operation.exchanges]

/-- A site for members only, which reads one field of the user. -/
def membersSite : Site where
  definition := { SiteDefinition.empty with
    name := "Site", url := some "http://[::1]/", authPolicy := .members,
    groups := .ofList [("userInfo", .ofList [("name", FieldQuery.ofSelectors (.one "b"))])] }
  options := .ofFilters .empty

/-- Answers everything with a page that asks for a login. -/
def loginPage (status : Nat) : Web Unit := fun m u =>
  (.ok ⟨status, m.url, [], none, some (Utf8.encode "Please <b>login</b>".toList), .utf8⟩, u)

theorem gates_guard_loginPage :
    (∃ e, (Site.mk .empty (.ofFilters .empty)).resolve = .error e ∧
      (Site.mk .empty (.ofFilters .empty)).userInfo.sent (loginPage 200) () = []) ∧
    (∃ s, membersSite.ready = .ok s ∧
      membersSite.userInfo.sent (loginPage 200) () =
        (Operation.userInfo.exchanges s (loginPage 200) ()).filterMap (Exchange.outgoing? s)) ∧
    (membersSite.ping.run (loginPage 200) ()).1 = .ok false ∧
    ∃ s response, membersSite.ready = .ok s ∧
      Exchange.Answered s (loginPage 200) ⟨Request.get "", ()⟩ response ∧
      response.status ≤ 400 ∧ s.config.authPolicy.accepts response = false := by
  have hping : (membersSite.ping.run (loginPage 200) ()).1 = .ok false := by decide +kernel
  refine ⟨⟨_, rfl, ?_⟩, ⟨_, rfl, ?_⟩, hping, ?_⟩
  · exact ((gates_guard (Site.mk .empty (.ofFilters .empty)) (loginPage 200) ()).1 _ rfl _
      .userInfo).2
  · exact ((gates_guard membersSite (loginPage 200) ()).2.1 _ rfl _ .userInfo).1
  · exact (gates_guard membersSite (loginPage 200) ()).2.2.1.mp hping

-- The status comes first: a login page that is forbidden is a failure of the network.
example : (membersSite.ping.run (loginPage 403) ()).1 =
    .error ⟨.network, "Site", "Ping", some (.status 403)⟩ := by
  decide +kernel

end Site

end Gleaner
