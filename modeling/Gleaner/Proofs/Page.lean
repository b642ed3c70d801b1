import Gleaner.Page
import Gleaner.Proofs.Keyed

/-!
Pages made into entities with the help of a normalizer of links that may do more than answer: it may
keep count of what it is asked, and answer by what it was asked before. Whatever the page, each row
that is located gives one entity, and the normalizer is asked for each link field of each row once,
and for nothing else (`entities_made`).
-/
namespace Gleaner

/-! ### Runs over a list -/

section

variable {α β σ : Type} (f : α → StateM σ β)

theorem mapM_nil_apply (st : σ) : ([] : List α).mapM f st = ([], st) := rfl

theorem mapM_cons_apply (x : α) (xs : List α) (st : σ) :
    (x :: xs).mapM f st =
      ((f x st).1 :: (xs.mapM f (f x st).2).1, (xs.mapM f (f x st).2).2) := by
  rw [List.mapM_cons]
  rfl

theorem mapM_append_apply (xs ys : List α) (st : σ) :
    (xs ++ ys).mapM f st =
      ((xs.mapM f st).1 ++ (ys.mapM f (xs.mapM f st).2).1, (ys.mapM f (xs.mapM f st).2).2) := by
  rw [List.mapM_append]
  rfl

end

namespace Page

/-- Whether a field holds a link, by its name. -/
def isLink {α : Type} (f : String × α) : Bool := linkFields.contains f.1

section

variable {m : Type → Type} [Monad m]

/-- The value of one field, where a normalizer answers what the link of a text is. -/
def fieldM (source : Source) (filters : FilterRegistry) (links : String → m String)
    (f : String × FieldQuery) : m (String × FieldValue) := do
  let value := extract source f.2 filters
  if isLink f then return (f.1, .text (← links value.asText))
  else return (f.1, value)

/-- The fields of a group that are asked for. -/
def wanted (group : FieldGroup) (only : Option (List String)) : List (String × FieldQuery) :=
  group.entries.filter fun f => only.all fun names => names.contains f.1

def entityM (source : Source) (group : FieldGroup) (only : Option (List String))
    (filters : FilterRegistry) (links : String → m String) : m Entity := do
  return OrderedMap.ofList (← (wanted group only).mapM (fieldM source filters links))

def entitiesM (body : String) (format : PageFormat) (rows : Option String) (group : FieldGroup)
    (filters : FilterRegistry) (links : String → m String) : m (List Entity) :=
  (Page.rows body format rows).mapM fun row => entityM row group none filters links

def summaryM (body : String) (format : PageFormat) (group : FieldGroup)
    (only : Option (List String)) (filters : FilterRegistry) (links : String → m String) :
    m Entity :=
  entityM (whole body format) group only filters links

end

/-- The rows of a page: what a selector means in a document, or the items of an array. A document
has none without a selector that compiles, and nor has JSON that does not parse, or that has no
array at the path. -/
inductive Located (body : String) : PageFormat → Option String → List Source → Prop
  | elements {css : String} {selector : Css.Selector} :
    Css.Selector.parse? css = some selector →
    Located body .document (some css)
      ((selector.select (Html.Document.parse body) [Html.Document.root]).map fun i =>
        .html (Html.Document.parse body) [i])
  | items {path : Option String} {j : Json} {items : List Json} :
    Json.parse? body = some j → j.at? (path.getD "") = some (.arr items) →
    Located body .json path (items.map .json)

/-- What a page is as a whole: of a document what the selector `html` means in it, and of JSON its
value. Where that does not parse it is `null`. -/
inductive AsWhole (body : String) : PageFormat → Source → Prop
  | elements {selector : Css.Selector} :
    Css.Selector.parse? "html" = some selector →
    AsWhole body .document
      (.html (Html.Document.parse body)
        (selector.select (Html.Document.parse body) [Html.Document.root]))
  | value {j : Json} : Json.parse? body = some j → AsWhole body .json (.json j)
  | malformed : Json.parse? body = none → AsWhole body .json (.json .null)

/-- The texts of which a normalizer is asked to make links. -/
def linkTexts (source : Source) (fields : List (String × FieldQuery)) (filters : FilterRegistry) :
    List String :=
  (fields.filter isLink).map fun f => (extract source f.2 filters).asText

/-- The values of an entity stand under the fields, in their order. The links among them are what
the normalizer answered, and all others are as they were extracted. -/
structure MadeOf (source : Source) (fields : List (String × FieldQuery)) (filters : FilterRegistry)
    (answers : List String) (values : List (String × FieldValue)) : Prop where
  keys : Keyed.keys values = Keyed.keys fields
  links : (values.filter isLink).map Prod.snd = answers.map FieldValue.text
  others : ∀ f ∈ fields, isLink f = false → (f.1, extract source f.2 filters) ∈ values

theorem rows_of_located {body : String} {format : PageFormat} {setting : Option String}
    {rows : List Source} (h : Located body format setting rows) :
    Page.rows body format setting = rows := by
  cases h with
  | elements hparse => simp [Page.rows, hparse]
  | items hparse hat => simp [Page.rows, hparse, hat]

theorem rows_of_not_located {body : String} {format : PageFormat} {setting : Option String}
    (h : ∀ rows, ¬ Located body format setting rows) : Page.rows body format setting = [] := by
  unfold Page.rows
  cases format with
  | document =>
    dsimp only
    split
    next selector hselector =>
      obtain ⟨css, rfl, hparse⟩ := Option.bind_eq_some_iff.mp hselector
      exact absurd (Located.elements hparse) (h _)
    next => rfl
  | json =>
    dsimp only
    split
    next items hitems =>
      obtain ⟨j, hparse, hat⟩ := Option.bind_eq_some_iff.mp hitems
      exact absurd (Located.items hparse hat) (h _)
    next => rfl

theorem asWhole_whole (body : String) (format : PageFormat) :
    AsWhole body format (whole body format) := by
  cases format with
  | document =>
    obtain ⟨selector, hselector⟩ := Option.isSome_iff_exists.mp
      (show (Css.Selector.parse? "html").isSome = true by decide +kernel)
    have hwhole : whole body .document = .html (Html.Document.parse body)
        (selector.select (Html.Document.parse body) [Html.Document.root]) := by
      simp [whole, scopeOf, hselector]
    exact hwhole ▸ AsWhole.elements hselector
  | json =>
    cases hj : Json.parse? body with
    | none => simpa [whole, hj] using AsWhole.malformed hj
    | some j => simpa [whole, hj] using AsWhole.value hj

theorem whole_of_asWhole {body : String} {format : PageFormat} {source : Source}
    (h : AsWhole body format source) : whole body format = source := by
  cases h with
  | elements hselector => simp [whole, scopeOf, hselector]
  | value hj => simp [whole, hj]
  | malformed hj => simp [whole, hj]

variable {σ : Type} {source : Source} {filters : FilterRegistry} {links : String → StateM σ String}

theorem fieldM_of_link {f : String × FieldQuery} (h : isLink f = true) (st : σ) :
    fieldM source filters links f st =
      ((f.1, .text (links (extract source f.2 filters).asText st).1),
        (links (extract source f.2 filters).asText st).2) := by
  unfold fieldM
  rw [if_pos h]
  rfl

theorem fieldM_of_not_link {f : String × FieldQuery} (h : isLink f = false)
    (st : σ) : fieldM source filters links f st = ((f.1, extract source f.2 filters), st) := by
  unfold fieldM
  rw [if_neg (Bool.eq_false_iff.mp h)]
  rfl

theorem linkTexts_of_link {f : String × FieldQuery} (h : isLink f = true)
    (fields : List (String × FieldQuery)) :
    linkTexts source (f :: fields) filters =
      (extract source f.2 filters).asText :: linkTexts source fields filters := by
  rw [linkTexts, List.filter_cons_of_pos h]
  rfl

theorem linkTexts_of_not_link {f : String × FieldQuery} (h : isLink f = false)
    (fields : List (String × FieldQuery)) :
    linkTexts source (f :: fields) filters = linkTexts source fields filters := by
  rw [linkTexts, List.filter_cons_of_neg (Bool.eq_false_iff.mp h)]
  rfl

theorem MadeOf.nil : MadeOf source [] filters [] [] :=
  ⟨rfl, rfl, fun _ hf => absurd hf List.not_mem_nil⟩

theorem MadeOf.link {f : String × FieldQuery} {fields : List (String × FieldQuery)}
    {answers : List String} {values : List (String × FieldValue)} (h : isLink f = true)
    (made : MadeOf source fields filters answers values) (answer : String) :
    MadeOf source (f :: fields) filters (answer :: answers) ((f.1, .text answer) :: values) := by
  refine ⟨?_, ?_, ?_⟩
  · rw [Keyed.keys_cons, Keyed.keys_cons, made.keys]
  · have hvalue : isLink (f.1, FieldValue.text answer) = true := h
    rw [List.filter_cons_of_pos hvalue, List.map_cons, made.links, List.map_cons]
  · intro g hg hother
    rcases List.mem_cons.mp hg with rfl | hg
    · rw [h] at hother
      cases hother
    · exact List.mem_cons_of_mem _ (made.others g hg hother)

theorem MadeOf.other {f : String × FieldQuery} {fields : List (String × FieldQuery)}
    {answers : List String} {values : List (String × FieldValue)} (h : isLink f = false)
    (made : MadeOf source fields filters answers values) :
    MadeOf source (f :: fields) filters answers ((f.1, extract source f.2 filters) :: values) := by
  refine ⟨?_, ?_, ?_⟩
  · rw [Keyed.keys_cons, Keyed.keys_cons, made.keys]
  · have hvalue : ¬ isLink (f.1, extract source f.2 filters) = true := Bool.eq_false_iff.mp h
    rw [List.filter_cons_of_neg hvalue, made.links]
  · intro g hg hother
    rcases List.mem_cons.mp hg with rfl | hg
    · exact List.mem_cons_self
    · exact List.mem_cons_of_mem _ (made.others g hg hother)

/-- A run over fields asks for the texts of the link fields among them, one after another. -/
theorem mapM_fieldM (source : Source) (filters : FilterRegistry) (links : String → StateM σ String)
    (fields : List (String × FieldQuery)) (st : σ) :
    ∃ answers,
      (linkTexts source fields filters).mapM links st =
        (answers, (fields.mapM (fieldM source filters links) st).2) ∧
      MadeOf source fields filters answers (fields.mapM (fieldM source filters links) st).1 := by
  -- An answer may change what is answered next, so that the state is left free.
  induction fields generalizing st with
  | nil => exact ⟨[], rfl, MadeOf.nil⟩
  | cons f fields ih =>
    rw [mapM_cons_apply]
    cases h : isLink f with
    | true =>
      rw [fieldM_of_link h, linkTexts_of_link h, mapM_cons_apply]
      obtain ⟨answers, hasked, made⟩ := ih (links (extract source f.2 filters).asText st).2
      refine ⟨(links (extract source f.2 filters).asText st).1 :: answers, ?_, made.link h _⟩
      rw [hasked]
    | false =>
      rw [fieldM_of_not_link h, linkTexts_of_not_link h]
      obtain ⟨answers, hasked, made⟩ := ih st
      exact ⟨answers, hasked, made.other h⟩

theorem nodup_wanted (group : FieldGroup) (only : Option (List String)) :
    (Keyed.keys (wanted group only)).Nodup :=
  List.Nodup.sublist (List.filter_sublist.map Prod.fst) group.nodup

/-- Of a source one entity is made, whatever is found there. -/
theorem entityM_made (source : Source) (filters : FilterRegistry)
    (links : String → StateM σ String) (group : FieldGroup) (only : Option (List String)) (st : σ) :
    ∃ answers,
      (linkTexts source (wanted group only) filters).mapM links st =
        (answers, (entityM source group only filters links st).2) ∧
      MadeOf source (wanted group only) filters answers
        (entityM source group only filters links st).1.entries := by
  obtain ⟨answers, hasked, made⟩ :=
    mapM_fieldM source filters links (wanted group only) st
  have hentries : (entityM source group only filters links st).1.entries =
      ((wanted group only).mapM (fieldM source filters links) st).1 :=
    OrderedMap.entries_ofList (made.keys ▸ nodup_wanted group only)
  exact ⟨answers, hasked, hentries ▸ made⟩

/-- A run over rows asks row by row. -/
theorem mapM_entityM (group : FieldGroup) (rows : List Source) (st : σ) :
    ∃ answers : List (List String),
      (rows.flatMap fun row => linkTexts row group.entries filters).mapM links st =
        (answers.flatten, (rows.mapM (entityM · group none filters links) st).2) ∧
      answers.length = rows.length ∧
      (rows.mapM (entityM · group none filters links) st).1.length = rows.length ∧
      ∀ (i : Nat) row as e, rows[i]? = some row → answers[i]? = some as →
        (rows.mapM (entityM · group none filters links) st).1[i]? = some e →
        MadeOf row group.entries filters as e.entries := by
  induction rows generalizing st with
  | nil => exact ⟨[], rfl, rfl, rfl, fun i row as e hrow => by simp at hrow⟩
  | cons row rows ih =>
    have hall : wanted group none = group.entries := List.filter_eq_self.mpr fun f _ => rfl
    obtain ⟨here, hhere, made⟩ := entityM_made row filters links group none st
    rw [hall] at hhere made
    obtain ⟨answers, hasked, hanswers, hentities, hrows⟩ :=
      ih (entityM row group none filters links st).2
    rw [mapM_cons_apply]
    refine ⟨here :: answers, ?_, ?_, ?_, ?_⟩
    · rw [List.flatMap_cons, mapM_append_apply, hhere, hasked, List.flatten_cons]
    · rw [List.length_cons, hanswers, List.length_cons]
    · rw [List.length_cons, hentities, List.length_cons]
    · intro i row' as e hrow has he
      cases i with
      | zero =>
        cases Option.some.inj hrow
        cases Option.some.inj has
        cases Option.some.inj he
        exact made
      | succ i => exact hrows i row' as e hrow has he

theorem entityM_pure {m : Type → Type} [Monad m] [LawfulMonad m] (source : Source)
    (group : FieldGroup) (only : Option (List String)) (filters : FilterRegistry)
    (link : String → String) :
    entityM source group only filters (fun t => (pure (link t) : m String)) =
      pure (entity source group only filters link) := by
  have hfield : ∀ f : String × FieldQuery,
      fieldM source filters (fun t => (pure (link t) : m String)) f =
        pure (f.1, field source filters link f.1 f.2) := by
    intro f
    unfold fieldM field isLink
    dsimp only
    split <;> simp
  unfold entityM entity
  rw [funext hfield, List.mapM_pure, pure_bind]
  rfl

theorem entitiesM_pure (body : String) (format : PageFormat) (setting : Option String)
    (group : FieldGroup) (filters : FilterRegistry) (link : String → String) :
    Id.run (entitiesM body format setting group filters fun t => pure (link t)) =
      entities body format setting group filters link := by
  have hrow : ∀ row : Source,
      (entityM row group none filters fun t => (pure (link t) : Id String)) =
        pure (entity row group none filters link) := fun row =>
    entityM_pure row group none filters link
  unfold entitiesM entities
  rw [funext hrow, List.mapM_pure]
  rfl

/-- Whatever the page, the group and the normalizer, each row that is located gives one entity, in
the order of the rows; where none is located there are none, and nobody is asked. The normalizer is
asked for the text of each link field of each row, in this order, and for nothing else, and its
answers are the links of the entities. A page is always something as a whole, and gives one entity
for that in the same way. With a normalizer that only answers these are the entities of the page. -/
theorem entities_made (body : String) (format : PageFormat) (setting : Option String)
    (group : FieldGroup) (filters : FilterRegistry) (links : String → StateM σ String) (st : σ) :
    let found := entitiesM body format setting group filters links st
    (∀ rows, Located body format setting rows → ∃ answers : List (List String),
      (rows.flatMap fun row => linkTexts row group.entries filters).mapM links st =
        (answers.flatten, found.2) ∧
      answers.length = rows.length ∧ found.1.length = rows.length ∧
      ∀ (i : Nat) row as e, rows[i]? = some row → answers[i]? = some as → found.1[i]? = some e →
        MadeOf row group.entries filters as e.entries) ∧
    ((∀ rows, ¬ Located body format setting rows) → found = ([], st)) ∧
    AsWhole body format (whole body format) ∧
    (∀ source, AsWhole body format source → ∀ only, ∃ answers,
      (linkTexts source (wanted group only) filters).mapM links st =
        (answers, (summaryM body format group only filters links st).2) ∧
      MadeOf source (wanted group only) filters answers
        (summaryM body format group only filters links st).1.entries) ∧
    ∀ link : String → String,
      Id.run (entitiesM body format setting group filters fun t => pure (link t)) =
        entities body format setting group filters link ∧
      ∀ only, Id.run (summaryM body format group only filters fun t => pure (link t)) =
        summary body format group only filters link := by
  refine ⟨?_, ?_, asWhole_whole body format, ?_, ?_⟩
  · intro rows hlocated
    rw [entitiesM, rows_of_located hlocated]
    exact mapM_entityM group rows st
  · intro hnone
    rw [entitiesM, rows_of_not_located hnone, mapM_nil_apply]
  · intro source hwhole only
    rw [summaryM, whole_of_asWhole hwhole]
    exact entityM_made source filters links group only st
  · intro link
    exact ⟨entitiesM_pure body format setting group filters link,
      fun only => entityM_pure (whole body format) group only filters link⟩

end Page

end Gleaner
