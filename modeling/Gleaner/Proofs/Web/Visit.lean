import Gleaner.Web.Visit

/-!
Laws of visits. Going on with what a visit found obeys the laws of a monad; recovering touches only
the result of a visit, so that it sends the same messages.
-/
namespace Gleaner.Web.Visit

variable {ε δ α β γ σ : Type}

theorem bind_eq (v : Visit ε α) (f : α → Visit ε β) : (v >>= f) = v.bind f := rfl

theorem bind_pure' (v : Visit ε α) : (v >>= pure) = v := by
  induction v with
  | done r => cases r <;> rfl
  | ask m next ih => exact congrArg (ask m) (funext ih)

instance : LawfulMonad (Visit ε) :=
  LawfulMonad.mk' (Visit ε) bind_pure' (fun _ _ => rfl) bind_assoc

theorem recover_id (v : Visit ε α) : v.recover id = v := by
  induction v with
  | done r => rfl
  | ask m next ih => exact congrArg (ask m) (funext ih)

theorem recover_map (v : Visit ε α) (f : α → β) (g : Except ε β → Except δ γ) :
    (v >>= fun a => pure (f a)).recover g = v.recover fun r => g (r.map f) := by
  induction v with
  | done r => cases r <;> rfl
  | ask m next ih => exact congrArg (ask m) (funext ih)

theorem run_recover (web : Web σ) (v : Visit ε α) (f : Except ε α → Except δ β) (s : σ) :
    (v.recover f).run web s = (f (v.run web s).1, (v.run web s).2) := by
  induction v generalizing s with
  | done r => rfl
  | ask m next ih => exact ih (web m s).1 (web m s).2

theorem sent_recover (web : Web σ) (v : Visit ε α) (f : Except ε α → Except δ β) (s : σ) :
    (v.recover f).sent web s = v.sent web s := by
  induction v generalizing s with
  | done r => rfl
  | ask m next ih => exact congrArg (m :: ·) (ih (web m s).1 (web m s).2)

end Gleaner.Web.Visit
