import Gleaner.Proofs.Url.Host
import Gleaner.Proofs.Web.Visit
import Gleaner.Site.Visit

/-!
What comes of one request to a site. Its message is answered with a usable response, or there is
none; a response passes both gates or the request fails, with the status first
(`Exchange.run_send`).
-/
namespace Gleaner

open Web

variable {α σ : Type}

namespace Site

theorem visit_of_ready {site : Site} {s : ReadySite} (h : site.ready = .ok s)
    (f : ReadySite → SiteVisit α) : site.visit f = f s := by
  rw [visit, h]
  rfl

theorem ready_of_resolve_error {site : Site} {e : ConfigError} (h : site.resolve = .error e) :
    site.ready = .error (site.configError e) := by
  rw [ready, h]

theorem ready_of_resolve_ok {site : Site} {c : SiteConfig} (h : site.resolve = .ok c) :
    ∃ s, site.ready = .ok s := by
  rw [ready, h]
  exact ⟨_, rfl⟩

theorem visit_of_resolve_error {site : Site} {e : ConfigError} (h : site.resolve = .error e)
    (f : ReadySite → SiteVisit α) : site.visit f = .done (.error (site.configError e)) := by
  rw [visit, ready_of_resolve_error h]
  rfl

end Site

theorem Web.Reply.response_eq_ok {reply : Reply} {method url : String} {response : Response} :
    reply.response method url = .ok response ↔
      reply.announced.all (· ≤ maxLength) = true ∧
      ∃ bytes, reply.body = some bytes ∧ bytes.length ≤ maxLength ∧
        response = Response.ofBytes reply.status url reply.url.withoutFragment.text reply.headers
          reply.suggested (if method = "HEAD" then none else some bytes) := by
  have hannounced : reply.announced.any (maxLength < ·) = true ↔
      ¬ reply.announced.all (· ≤ maxLength) = true := by
    cases reply.announced <;> simp
  unfold Reply.response
  rw [ite_error_eq_ok, hannounced, Decidable.not_not]
  cases reply.body with
  | none => simp
  | some bytes =>
    simp only [ite_error_eq_ok, Nat.not_lt, Except.ok.injEq, Option.some.injEq,
      exists_eq_left', eq_comm (a := response)]

namespace Request

/-- The message that a request becomes; none when its address or a header cannot be written. -/
def outgoing? (r : Request) (common : List (String × String)) (base : String) : Option Message :=
  (r.resolve base).toOption.bind fun url => (r.message? common url).toOption

/-- A request is answered with a response when it can be sent and the web replies to it, with a
whole body that is not too large. -/
def Answered (r : Request) (common : List (String × String)) (base : String) (web : Web σ) (w : σ)
    (response : Response) : Prop :=
  ∃ url message reply bytes,
    r.resolve base = .ok url ∧ r.message? common url = .ok message ∧
    (web message w).1 = .ok reply ∧ reply.announced.all (· ≤ maxLength) = true ∧
    reply.body = some bytes ∧ bytes.length ≤ maxLength ∧
    response = Response.ofBytes reply.status url.text reply.url.withoutFragment.text reply.headers
      reply.suggested (if r.method = "HEAD" then none else some bytes)

/-- A request is sent as one message at most, and its response is made of the reply to that. -/
theorem fetch_eq (r : Request) (common : List (String × String)) (base : String) :
    r.fetch common base =
      match r.resolve base with
      | .error e => .done (.error e)
      | .ok url =>
        match r.message? common url with
        | .error f => .done (.error (.failed f))
        | .ok message => .ask message fun answer => .done <|
          match answer with
          | .error f => .error (.failed f)
          | .ok reply => reply.response r.method url.text := by
  rw [fetch]
  cases r.resolve base with
  | error e => rfl
  | ok url =>
    simp only [Visit.bind_eq, Visit.ok_bind]
    cases r.message? common url with
    | error f => rfl
    | ok message =>
      refine congrArg (Visit.ask message) (funext fun answer => ?_)
      cases answer <;> rfl

theorem sent_fetch (r : Request) (common : List (String × String)) (base : String) (web : Web σ)
    (w : σ) : (r.fetch common base).sent web w = (r.outgoing? common base).toList := by
  rw [fetch_eq, outgoing?]
  cases r.resolve base with
  | error e => rfl
  | ok url => cases hm : r.message? common url <;> simp [hm, Visit.sent, Except.toOption]

theorem run_fetch_eq_ok {r : Request} {common : List (String × String)} {base : String}
    {web : Web σ} {w : σ} {response : Response} :
    ((r.fetch common base).run web w).1 = .ok response ↔
      r.Answered common base web w response := by
  rw [fetch_eq, Answered]
  cases hurl : r.resolve base with
  | error e => simp [Visit.run]
  | ok url =>
    cases hm : r.message? common url with
    | error f => simp [hm, Visit.run]
    | ok message =>
      cases ha : (web message w).1 with
      | error f => simp [hm, ha, Visit.run]
      | ok reply => simp [hm, ha, Visit.run, Reply.response_eq_ok]

end Request

/-- A request as it comes to a web: with the state of the web before it. -/
structure Exchange (σ : Type) where
  request : Request
  web : σ

namespace Exchange

/-- The message that is sent to a site for a request. -/
def outgoing? (s : ReadySite) (x : Exchange σ) : Option Message :=
  x.request.outgoing? s.headers.entries (s.baseOf x.request)

def Answered (s : ReadySite) (web : Web σ) (x : Exchange σ) (response : Response) : Prop :=
  x.request.Answered s.headers.entries (s.baseOf x.request) web x.web response

/-- What is fetched for a request: its response, or why there is none. -/
def fetched (s : ReadySite) (web : Web σ) (x : Exchange σ) : Except FetchError Response :=
  ((x.request.fetch s.headers.entries (s.baseOf x.request)).run web x.web).1

/-- What an exchange needs to pass both gates. -/
def Passes (s : ReadySite) (web : Web σ) (x : Exchange σ) (response : Response) : Prop :=
  x.Answered s web response ∧ response.status ≤ 400 ∧
    s.config.authPolicy.accepts response = true

/-- How an exchange fails. The login is looked at only where the status is good. -/
inductive Fails (s : ReadySite) (operation : String) (web : Web σ) (x : Exchange σ) :
    SiteError → Prop
  | unanswered {cause : FetchError} (h : ∀ response, ¬ x.Answered s web response)
    (hc : x.fetched s web = .error cause) :
    Fails s operation web x ⟨.network, s.config.name, operation, some (.fetch cause)⟩
  | status {response : Response} (h : x.Answered s web response) (hs : 400 < response.status) :
    Fails s operation web x ⟨.network, s.config.name, operation, some (.status response.status)⟩
  | loggedOut {response : Response} (h : x.Answered s web response) (hs : response.status ≤ 400)
    (hl : s.config.authPolicy.accepts response = false) :
    Fails s operation web x
      ⟨.authentication, s.config.name, operation, some (.loggedOut response.finalUrl)⟩

variable {s : ReadySite} {operation : String} {web : Web σ} {x : Exchange σ} {r : Request} {w : σ}

theorem fetched_eq_ok {response : Response} :
    x.fetched s web = .ok response ↔ x.Answered s web response :=
  Request.run_fetch_eq_ok

theorem Answered.unique {a b : Response} (ha : x.Answered s web a) (hb : x.Answered s web b) :
    a = b :=
  Except.ok.inj ((fetched_eq_ok.mpr ha).symm.trans (fetched_eq_ok.mpr hb))

/-- A request fails for want of a login just when there is a response with a good status that the
policy of the site does not accept. -/
theorem Fails.kind_eq_authentication {e : SiteError} (h : Fails s operation web x e) :
    e.kind = .authentication ↔ ∃ response, x.Answered s web response ∧ response.status ≤ 400 ∧
      s.config.authPolicy.accepts response = false := by
  cases h with
  | unanswered h _ => exact ⟨nofun, fun ⟨response, hr, _⟩ => absurd hr (h response)⟩
  | status hr hs =>
    refine ⟨nofun, fun ⟨other, ho, hstatus, _⟩ => ?_⟩
    rw [ho.unique hr] at hstatus
    omega
  | loggedOut hr hs hl => exact ⟨fun _ => ⟨_, hr, hs, hl⟩, fun _ => rfl⟩

theorem Passes.not_loggedOut {response : Response} (h : Passes s web x response) :
    ¬ ∃ other, x.Answered s web other ∧ other.status ≤ 400 ∧
      s.config.authPolicy.accepts other = false := by
  rintro ⟨other, ho, _, hl⟩
  rw [ho.unique h.1, h.2.2] at hl
  cases hl

theorem sent_send : (s.send operation r).sent web w = (outgoing? s ⟨r, w⟩).toList := by
  rw [ReadySite.send, Visit.sent_recover, Request.sent_fetch]
  rfl

theorem run_send_eq : ((s.send operation r).run web w).1 =
    match fetched s web ⟨r, w⟩ with
    | .error cause => .error (s.networkError operation (.fetch cause))
    | .ok response => s.gate operation response := by
  have hfetched : fetched s web ⟨r, w⟩ =
      ((r.fetch s.headers.entries (s.baseOf r)).run web w).1 := rfl
  -- closing the goal after these steps would carry the request out
  rewrite [hfetched, ReadySite.send, Visit.run_recover]
  generalize ((r.fetch s.headers.entries (s.baseOf r)).run web w).1 = found
  cases found <;> rfl

theorem run_send_of_passes {response : Response} (h : Passes s web ⟨r, w⟩ response) :
    ((s.send operation r).run web w).1 = .ok response := by
  obtain ⟨hanswered, hstatus, haccepts⟩ := h
  rewrite [run_send_eq, fetched_eq_ok.mpr hanswered]
  simp only [ReadySite.gate, if_neg (Nat.not_lt.mpr hstatus), haccepts, ↓reduceIte]

/-- A request passes both gates with its response, or it fails. -/
theorem run_send (s : ReadySite) (operation : String) (r : Request) (web : Web σ) (w : σ) :
    (∃ response, ((s.send operation r).run web w).1 = .ok response ∧
      Passes s web ⟨r, w⟩ response) ∨
    ∃ e, ((s.send operation r).run web w).1 = .error e ∧ Fails s operation web ⟨r, w⟩ e := by
  rw [run_send_eq]
  cases hf : fetched s web ⟨r, w⟩ with
  | error cause =>
    have hnone : ∀ response, ¬ Answered s web ⟨r, w⟩ response := by
      intro response hr
      rw [fetched_eq_ok.mpr hr] at hf
      cases hf
    exact Or.inr ⟨_, rfl, .unanswered hnone hf⟩
  | ok response =>
    have hr : Answered s web ⟨r, w⟩ response := fetched_eq_ok.mp hf
    simp only [ReadySite.gate]
    by_cases hs : 400 < response.status
    · rw [if_pos hs]
      exact Or.inr ⟨_, rfl, .status hr hs⟩
    · rw [if_neg hs]
      cases hl : s.config.authPolicy.accepts response with
      | true => exact Or.inl ⟨response, rfl, hr, Nat.not_lt.mp hs, hl⟩
      | false => exact Or.inr ⟨_, rfl, .loggedOut hr (Nat.not_lt.mp hs) hl⟩

end Exchange

end Gleaner
