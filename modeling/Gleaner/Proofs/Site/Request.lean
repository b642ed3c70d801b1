import Gleaner.Proofs.Url.Form
import Gleaner.Site.Request

/-!
The address of a request. Its parameters stand in the query, behind what the address has there
already, and decode to what they are (`resolve_queryPairs`).
-/
namespace Gleaner

namespace Url

theorem addPairs_nil (u : Url) : u.addPairs [] = u := rfl

/-- Nothing but the query is touched. -/
theorem addPairs_with_query (u : Url) (pairs : List (String × String)) :
    { u.addPairs pairs with query := u.query } = u := by
  cases pairs with
  | nil => rfl
  | cons p pairs => rfl

end Url

namespace Request

theorem resolve_eq_ok {r : Request} {base : String} {u : Url} :
    r.resolve base = .ok u ↔
      ∃ joined, Url.parse (r.written base) = .ok joined ∧ u = joined.addPairs r.params := by
  unfold resolve
  cases Url.parse (r.written base) with
  | ok joined => simp [eq_comm]
  | error e => simp

theorem exists_resolve {r : Request} {base : String} :
    (∃ u, r.resolve base = .ok u) ↔ ∃ joined, Url.parse (r.written base) = .ok joined := by
  simp only [resolve_eq_ok]
  constructor
  · rintro ⟨_, joined, hparse, _⟩
    exact ⟨joined, hparse⟩
  · rintro ⟨joined, hparse⟩
    exact ⟨joined.addPairs r.params, joined, hparse, rfl⟩

/-- There is an address just when what is written without the parameters parses, so that it does not
depend on them. Its query decodes to the pairs that the address had before and, behind these, the
parameters; all else of it is as it was, and so is the query when there are no parameters. -/
theorem resolve_queryPairs (r : Request) (base : String) :
    ((∃ u, r.resolve base = .ok u) ↔ ∃ joined, Url.parse (r.written base) = .ok joined) ∧
    (∀ params, (∃ u, { r with params := params }.resolve base = .ok u) ↔
      ∃ u, r.resolve base = .ok u) ∧
    ∀ u, r.resolve base = .ok u → ∃ joined, Url.parse (r.written base) = .ok joined ∧
      u.queryPairs = joined.queryPairs ++ r.params ∧
      u.path = joined.path ∧ u.fragment = joined.fragment ∧
      { u with query := joined.query } = joined ∧
      (r.params = [] → u = joined) := by
  refine ⟨exists_resolve, fun params => ?_, ?_⟩
  · rw [exists_resolve, exists_resolve]
    exact Iff.rfl
  · intro u h
    obtain ⟨joined, hparse, rfl⟩ := resolve_eq_ok.mp h
    have hrest := Url.addPairs_with_query joined r.params
    have hpath := congrArg Url.path hrest
    have hfragment := congrArg Url.fragment hrest
    refine ⟨joined, hparse, Url.queryPairs_addPairs joined r.params, hpath, hfragment, hrest, ?_⟩
    intro hnone
    rw [hnone, Url.addPairs_nil]

/-- A request with an awkward key, a key twice and an empty one. -/
def awkward : Request :=
  { Request.get "/browse.php?page=2#top" with
    params := [("a b&", "é=+"), ("", ""), ("a b&", "#%")] }

theorem resolve_queryPairs_awkward :
    ∃ u, awkward.resolve "http://[::1]/" = .ok u ∧
      u.queryPairs = [("page", "2"), ("a b&", "é=+"), ("", ""), ("a b&", "#%")] ∧
      u.fragment = some "top".toList := by
  have hread : ((Url.parse (awkward.written "http://[::1]/")).toOption.map fun joined =>
      (joined.queryPairs, joined.fragment)) = some ([("page", "2")], some "top".toList) := by
    decide +kernel
  obtain ⟨exists_iff, -, hqueries⟩ := resolve_queryPairs awkward "http://[::1]/"
  cases hparse : Url.parse (awkward.written "http://[::1]/") with
  | error e =>
    rw [hparse] at hread
    cases hread
  | ok joined =>
    obtain ⟨hpairs, hfragment⟩ := Prod.mk.inj (Option.some.inj (hparse ▸ hread))
    obtain ⟨u, hu⟩ := exists_iff.mpr ⟨joined, hparse⟩
    obtain ⟨_, hjoined, hquery, -, hsame, -⟩ := hqueries u hu
    cases hparse.symm.trans hjoined
    refine ⟨u, hu, ?_, hsame.trans hfragment⟩
    rw [hquery, hpairs]
    rfl

end Request

end Gleaner
