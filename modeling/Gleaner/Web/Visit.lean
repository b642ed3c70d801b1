import Gleaner.Web.Exchange

/-!
Visits: what is asked of a web, message by message, where each answer decides how it goes on. A
visit is data; `Visit.run` carries it out on a web, and `Visit.sent` lists the messages that this
sends.
-/
namespace Gleaner.Web

inductive Visit (ε α : Type) where
  | done (result : Except ε α)
  | ask (message : Message) (next : Answer → Visit ε α)

namespace Visit

variable {ε δ α β σ : Type}

def fail (e : ε) : Visit ε α := .done (.error e)

/-- Goes on with what a visit found. A failure ends the visit. -/
def bind (v : Visit ε α) (f : α → Visit ε β) : Visit ε β :=
  match v with
  | .done (.ok a) => f a
  | .done (.error e) => .done (.error e)
  | .ask m next => .ask m fun a => (next a).bind f

instance : Monad (Visit ε) where
  pure a := .done (.ok a)
  bind := bind

/-- Goes on with the result as a whole, be it a failure. -/
def recover (v : Visit ε α) (f : Except ε α → Except δ β) : Visit δ β :=
  match v with
  | .done r => .done (f r)
  | .ask m next => .ask m fun a => (next a).recover f

/-- Carries a visit out. -/
def run (web : Web σ) : Visit ε α → σ → Except ε α × σ
  | .done r, s => (r, s)
  | .ask m next, s => (next (web m s).1).run web (web m s).2

/-- The messages that a visit sends. -/
def sent (web : Web σ) : Visit ε α → σ → List Message
  | .done _, _ => []
  | .ask m next, s => m :: (next (web m s).1).sent web (web m s).2

@[simp] theorem ok_bind (a : α) (f : α → Visit ε β) : (done (.ok a)).bind f = f a := rfl

@[simp] theorem error_bind (e : ε) (f : α → Visit ε β) :
    (done (.error e)).bind f = done (.error e) := rfl

theorem bind_assoc {γ : Type} (v : Visit ε α) (f : α → Visit ε β) (g : β → Visit ε γ) :
    (v.bind f).bind g = v.bind fun a => (f a).bind g := by
  induction v with
  | done r => cases r <;> rfl
  | ask m next ih => simp only [bind]; congr 1; funext a; exact ih a

theorem run_bind (web : Web σ) (v : Visit ε α) (f : α → Visit ε β) (s : σ) :
    (v.bind f).run web s =
      match v.run web s with
      | (.ok a, t) => (f a).run web t
      | (.error e, t) => (.error e, t) := by
  induction v generalizing s with
  | done r => cases r <;> rfl
  | ask m next ih => simp only [bind, run]; exact ih (web m s).1 (web m s).2

/-- A visit that goes on and succeeds has succeeded so far. -/
theorem run_bind_eq_ok {web : Web σ} {v : Visit ε α} {f : α → Visit ε β} {s : σ} {b : β}
    (h : ((v.bind f).run web s).1 = .ok b) :
    ∃ a t, v.run web s = (.ok a, t) ∧ ((f a).run web t).1 = .ok b := by
  rw [run_bind] at h
  split at h
  next a t hv => exact ⟨a, t, hv, h⟩
  next => cases h

theorem sent_bind (web : Web σ) (v : Visit ε α) (f : α → Visit ε β) (s : σ) :
    (v.bind f).sent web s =
      v.sent web s ++
        match v.run web s with
        | (.ok a, t) => (f a).sent web t
        | (.error _, _) => [] := by
  induction v generalizing s with
  | done r => cases r <;> rfl
  | ask m next ih =>
    simp only [bind, sent, run, List.cons_append]
    rw [ih (web m s).1 (web m s).2]

end Visit

end Gleaner.Web
