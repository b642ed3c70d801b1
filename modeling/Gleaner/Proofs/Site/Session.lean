import Gleaner.Proofs.Site.Visit
import Mathlib.Data.List.Forall2

/-!
Sessions: what an operation asks of a site, request by request, and what it makes of the responses.
A session gets to see no response but those that pass both gates, and the first request that fails
ends it (`Session.run_visit`).
-/
namespace Gleaner

open Web

variable {α σ : Type}

/-- What is done between requests: a session ends, or sends a request and goes on with the
response. -/
inductive Session (α : Type) where
  | done (result : α)
  | send (request : Request) (next : Response → Session α)

namespace Session

/-- A session with a site, as an operation. -/
def visit (s : ReadySite) (operation : String) : Session α → SiteVisit α
  | done result => pure result
  | send request next => do
    let response ← s.send operation request
    (next response).visit s operation

/-- What comes after a request: nothing when it failed. -/
def afterwards (sent : Except SiteError Response × σ)
    (rest : Response → σ → List (Exchange σ)) : List (Exchange σ) :=
  match sent with
  | (.error _, _) => []
  | (.ok response, w) => rest response w

/-- The exchanges of a session over a web. The first that fails is the last. -/
def exchanges (s : ReadySite) (operation : String) (web : Web σ) :
    Session α → σ → List (Exchange σ)
  | done _, _ => []
  | send request next, w =>
    ⟨request, w⟩ :: afterwards ((s.send operation request).run web w) fun response w =>
      (next response).exchanges s operation web w

/-- What a session ends with on given responses, when it asks for as many. -/
def answer? : Session α → List Response → Option α
  | done result, [] => some result
  | send _ next, response :: rest => (next response).answer? rest
  | _, _ => none

variable {s : ReadySite} {operation : String} {web : Web σ}

/-- A session sends the messages of its exchanges, in their order, and no other. -/
theorem sent_visit (session : Session α) (w : σ) :
    (session.visit s operation).sent web w =
      (session.exchanges s operation web w).filterMap (·.outgoing? s) := by
  induction session generalizing w with
  | done result => rfl
  | send request next ih =>
    rw [visit, exchanges, Visit.bind_eq, Visit.sent_bind, Exchange.sent_send, List.filterMap_cons]
    obtain ⟨_ | response, w'⟩ := (s.send operation request).run web w
    · cases Exchange.outgoing? s ⟨request, w⟩ <;> rfl
    · simp only [ih response w']
      cases Exchange.outgoing? s ⟨request, w⟩ <;> rfl

/-- A session sees one response after another pass, and ends with what it makes of them; or its last
request fails, and it ends with that failure. -/
theorem run_visit (session : Session α) (w : σ) :
    (∃ responses result,
      List.Forall₂ (Exchange.Passes s web) (session.exchanges s operation web w) responses ∧
      session.answer? responses = some result ∧
      ((session.visit s operation).run web w).1 = .ok result) ∨
    ∃ before last responses e, session.exchanges s operation web w = before ++ [last] ∧
      List.Forall₂ (Exchange.Passes s web) before responses ∧
      last.Fails s operation web e ∧
      ((session.visit s operation).run web w).1 = .error e := by
  induction session generalizing w with
  | done result => exact Or.inl ⟨[], result, .nil, rfl, rfl⟩
  | send request next ih =>
    rw [visit, exchanges, Visit.bind_eq, Visit.run_bind]
    have hsend := Exchange.run_send s operation request web w
    generalize (s.send operation request).run web w = sent at hsend ⊢
    obtain ⟨found, w'⟩ := sent
    rcases hsend with ⟨response, rfl, hpass⟩ | ⟨e, rfl, hfail⟩
    · rcases ih response w' with ⟨responses, result, hall, hanswer, hrun⟩ |
        ⟨before, last, responses, e, hsplit, hall, hfail, hrun⟩
      · exact Or.inl ⟨response :: responses, result, .cons hpass hall, hanswer, hrun⟩
      · refine Or.inr ⟨⟨request, w⟩ :: before, last, response :: responses, e, ?_, .cons hpass hall,
          hfail, hrun⟩
        exact congrArg (⟨request, w⟩ :: ·) hsplit
    · exact Or.inr ⟨[], ⟨request, w⟩, [], e, rfl, .nil, hfail, rfl⟩

end Session

end Gleaner
