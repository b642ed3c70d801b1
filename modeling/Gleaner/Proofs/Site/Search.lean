import Gleaner.Site.Search

/-!
The request of a search. To the parameters of its template come the keywords, and then, of the
constraints that a caller gives, just those that the site offers (`build_offered`).
-/
namespace Gleaner.SearchSettings

variable {s : SearchSettings}

/-- Some category with the key has an option that reads as the value. -/
def Offers (s : SearchSettings) (constraint : String × String) : Prop :=
  ∃ c ∈ s.categories, c.key = constraint.1 ∧
    ∃ o ∈ c.options, Request.paramText o.value = constraint.2

instance (s : SearchSettings) (constraint : String × String) : Decidable (s.Offers constraint) :=
  inferInstanceAs (Decidable (∃ c ∈ s.categories, _ ∧ ∃ o ∈ c.options, _))

/-- What keywords add to the parameters of a request. -/
def keywordParams (s : SearchSettings) (keywords : Option String) : List (String × String) :=
  match s.keywordsParam, keywords with
  | some param, some text => if Text.blank text then [] else [(param, Text.trimmed text)]
  | _, _ => []

def templateParams (s : SearchSettings) : List (String × String) :=
  s.request.params.entries.map fun p => (p.1, Request.paramText p.2)

/-- An option of the vocabulary is found just when there is one, and it reads as what is asked. -/
theorem option?_cases (constraint : String × String) :
    (∃ o, s.option? constraint = some o ∧ Request.paramText o.value = constraint.2 ∧
      s.Offers constraint) ∨ (s.option? constraint = none ∧ ¬ s.Offers constraint) := by
  -- The search runs over the options of all categories that have the key.
  have hmem : ∀ o, o ∈ (s.categories.filter fun c => c.key = constraint.1).flatMap (·.options) ↔
      ∃ c ∈ s.categories, c.key = constraint.1 ∧ o ∈ c.options := by
    intro o
    simp only [List.mem_flatMap, List.mem_filter, decide_eq_true_eq, and_assoc]
  cases h : s.option? constraint with
  | some o =>
    have hreads : Request.paramText o.value = constraint.2 := by
      simpa using List.find?_some h
    obtain ⟨c, hc, hkey, ho⟩ := (hmem o).mp (List.mem_of_find?_eq_some h)
    exact Or.inl ⟨o, rfl, hreads, c, hc, hkey, o, ho, hreads⟩
  | none =>
    refine Or.inr ⟨rfl, ?_⟩
    rintro ⟨c, hc, hkey, o, ho, hreads⟩
    have hno := List.find?_eq_none.mp h o ((hmem o).mpr ⟨c, hc, hkey, ho⟩)
    exact hno (by simpa using hreads)

/-- One constraint is taken as it was given, or not at all. -/
theorem addConstraint_eq (r : Request) (constraint : String × String) :
    s.addConstraint r constraint =
      { r with params := r.params ++ [constraint].filter (s.Offers ·) } := by
  unfold addConstraint
  rcases option?_cases (s := s) constraint with ⟨o, ho, hreads, hoffers⟩ | ⟨hnone, hoffers⟩
  · rw [ho, List.filter_cons_of_pos (by simpa using hoffers)]
    dsimp only [Request.withParam]
    rw [hreads]
    rfl
  · rw [hnone, List.filter_cons_of_neg (by simpa using hoffers), List.filter_nil, List.append_nil]

theorem foldl_addConstraint (r : Request) (constraints : List (String × String)) :
    constraints.foldl s.addConstraint r =
      { r with params := r.params ++ constraints.filter (s.Offers ·) } := by
  induction constraints generalizing r with
  | nil => simp
  | cons constraint rest ih =>
    have hcons : (constraint :: rest).filter (s.Offers ·) =
        [constraint].filter (s.Offers ·) ++ rest.filter (s.Offers ·) := by
      rw [← List.filter_append]
      rfl
    rw [List.foldl_cons, ih, addConstraint_eq, hcons, ← List.append_assoc]

theorem addKeywords_eq (r : Request) (keywords : Option String) :
    s.addKeywords r keywords = { r with params := r.params ++ s.keywordParams keywords } := by
  unfold addKeywords keywordParams
  cases keywords with
  | none => simp [unlessBlank]
  | some text =>
    cases hblank : Text.blank text with
    | true =>
      have hnone : unlessBlank (some text) = none := by simp [unlessBlank, hblank]
      cases s.keywordsParam <;> simp [hnone, hblank]
    | false =>
      have hsome : unlessBlank (some text) = some text := by simp [unlessBlank, hblank]
      cases s.keywordsParam <;> simp [hsome, hblank, Request.withParam]

/-- The parameters are those of the template, then the keywords, then the constraints that the site
offers, in their order and as often as they are given; all else is as the template says. So a
constraint that the site does not offer has no part in the request: filters that differ only in such
ask for the same, and each parameter that is not the site's own, nor the keywords, is offered. -/
theorem build_offered (s : SearchSettings) (f : SearchFilter) :
    s.build f =
        { Request.ofTemplate s.request with
          params := s.templateParams ++ s.keywordParams f.keywords ++
            f.categories.filter (s.Offers ·) } ∧
      (∀ g : SearchFilter, g.keywords = f.keywords →
        g.categories.filter (s.Offers ·) = f.categories.filter (s.Offers ·) →
        s.build g = s.build f) ∧
      ∀ p ∈ (s.build f).params, p ∉ s.templateParams → p ∉ s.keywordParams f.keywords →
        p ∈ f.categories ∧ s.Offers p := by
  have hbuild : ∀ g : SearchFilter, s.build g =
      { Request.ofTemplate s.request with
        params := s.templateParams ++ s.keywordParams g.keywords ++
          g.categories.filter (s.Offers ·) } := by
    intro g
    rw [build, addKeywords_eq, foldl_addConstraint]
    rfl
  refine ⟨hbuild f, ?_, ?_⟩
  · intro g hkeywords hoffered
    rw [hbuild g, hbuild f, hkeywords, hoffered]
  · intro p hp htemplate hkeywords
    rw [hbuild f] at hp
    rcases List.mem_append.mp hp with hp | hp
    · exact absurd hp (by simp [htemplate, hkeywords])
    · obtain ⟨hmem, hoffers⟩ := List.mem_filter.mp hp
      exact ⟨hmem, by simpa using hoffers⟩

end Gleaner.SearchSettings
