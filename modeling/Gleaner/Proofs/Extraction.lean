import Gleaner.Extraction

/-!
Fallback chains. A selector that hits ends the search: what stands behind it is not read. Chains
compose (`run_append`), and the filters run once on each text that is found on the way, whatever
else they do besides giving a value.
-/
namespace Gleaner.Extraction

variable {raw : String → String} {pipeline : FieldValue → FieldValue}

/-- There is text at the selector, and the filters make something of it that is not blank. -/
def Hits (raw : String → String) (pipeline : FieldValue → FieldValue) (s : String) : Prop :=
  raw s ≠ "" ∧ (pipeline (.text (raw s))).isEmpty = false

instance (raw : String → String) (pipeline : FieldValue → FieldValue) (s : String) :
    Decidable (Hits raw pipeline s) :=
  inferInstanceAs (Decidable (_ ∧ _))

/-- The selectors up to the first that hits; all of them when none does. -/
def tried (raw : String → String) (pipeline : FieldValue → FieldValue) (ss : List String) :
    List String :=
  (ss.takeWhile fun s => ¬ Hits raw pipeline s) ++ (ss.find? fun s => Hits raw pipeline s).toList

/-- The texts at selectors, without the empty ones. -/
def texts (raw : String → String) (ss : List String) : List String :=
  (ss.map raw).filter fun t => t ≠ ""

/-- Tries selectors in order, with filters that do more than give a value. -/
def firstHitM {m : Type → Type} [Monad m] (raw : String → String)
    (pipeline : FieldValue → m FieldValue) : List String → m FieldValue
  | [] => pipeline (.text "")
  | s :: rest =>
    if (raw s).isEmpty then firstHitM raw pipeline rest
    else do
      let v ← pipeline (.text (raw s))
      if v.isEmpty then firstHitM raw pipeline rest else return v

theorem firstHit_of_hits {s : String} (h : Hits raw pipeline s) (rest : List String) :
    firstHit raw pipeline (s :: rest) = ⟨pipeline (.text (raw s)), [s], [raw s]⟩ := by
  have hraw : (raw s).isEmpty = false := by simpa using h.1
  rw [firstHit, hraw]
  simp [h.2]

/-- A selector that misses is read, and the filters run on its text, if it has any. -/
theorem firstHit_of_not_hits {s : String} (h : ¬ Hits raw pipeline s) (rest : List String) :
    firstHit raw pipeline (s :: rest) =
      ⟨(firstHit raw pipeline rest).value, s :: (firstHit raw pipeline rest).reads,
        texts raw [s] ++ (firstHit raw pipeline rest).inputs⟩ := by
  rw [firstHit]
  by_cases hraw : raw s = ""
  · simp [texts, hraw]
  · have hblank : (pipeline (.text (raw s))).isEmpty = true :=
      Bool.of_not_eq_false fun hfilled => h ⟨hraw, hfilled⟩
    simp [texts, hraw, hblank]

theorem tried_of_hits {s : String} (h : Hits raw pipeline s) (rest : List String) :
    tried raw pipeline (s :: rest) = [s] := by
  simp [tried, h]

theorem tried_of_not_hits {s : String} (h : ¬ Hits raw pipeline s) (rest : List String) :
    tried raw pipeline (s :: rest) = s :: tried raw pipeline rest := by
  simp [tried, h]

theorem texts_cons (s : String) (ss : List String) :
    texts raw (s :: ss) = texts raw [s] ++ texts raw ss := by
  rw [texts, texts, texts, ← List.filter_append, ← List.map_append]
  rfl

theorem reads_firstHit (ss : List String) :
    (firstHit raw pipeline ss).reads = tried raw pipeline ss := by
  induction ss with
  | nil => rfl
  | cons s rest ih =>
    by_cases h : Hits raw pipeline s
    · rw [firstHit_of_hits h, tried_of_hits h]
    · rw [firstHit_of_not_hits h, tried_of_not_hits h, ih]

/-- The filters run on each text up to the one that hits, and on the empty text when none does. -/
theorem inputs_firstHit (ss : List String) :
    (firstHit raw pipeline ss).inputs =
      texts raw (tried raw pipeline ss) ++
        if ∃ s ∈ ss, Hits raw pipeline s then [] else [""] := by
  induction ss with
  | nil => rfl
  | cons s rest ih =>
    by_cases h : Hits raw pipeline s
    · rw [firstHit_of_hits h, tried_of_hits h, if_pos ⟨s, List.mem_cons_self, h⟩]
      simp [texts, h.1]
    · rw [firstHit_of_not_hits h, tried_of_not_hits h, ih,
        texts_cons s (tried raw pipeline rest), List.append_assoc]
      simp [h]

theorem value_firstHit (ss : List String) :
    (firstHit raw pipeline ss).value =
      pipeline (.text (((ss.find? fun s => Hits raw pipeline s).map raw).getD "")) := by
  induction ss with
  | nil => rfl
  | cons s rest ih =>
    by_cases h : Hits raw pipeline s
    · rw [firstHit_of_hits h]
      simp [h]
    · rw [firstHit_of_not_hits h, ih]
      simp [h]

theorem firstHit_append_of_hits {xs : List String} (h : ∃ s ∈ xs, Hits raw pipeline s)
    (ys : List String) : firstHit raw pipeline (xs ++ ys) = firstHit raw pipeline xs := by
  induction xs with
  | nil => simp at h
  | cons s rest ih =>
    rw [List.cons_append]
    by_cases hs : Hits raw pipeline s
    · rw [firstHit_of_hits hs, firstHit_of_hits hs]
    · have hrest : ∃ t ∈ rest, Hits raw pipeline t := by
        obtain ⟨t, ht, hhits⟩ := h
        rcases List.mem_cons.mp ht with rfl | ht
        · exact absurd hhits hs
        · exact ⟨t, ht, hhits⟩
      rw [firstHit_of_not_hits hs, firstHit_of_not_hits hs, ih hrest]

theorem value_firstHit_append {xs : List String} (h : ∀ s ∈ xs, ¬ Hits raw pipeline s)
    (ys : List String) :
    (firstHit raw pipeline (xs ++ ys)).value = (firstHit raw pipeline ys).value := by
  induction xs with
  | nil => rfl
  | cons s rest ih =>
    rw [List.cons_append, firstHit_of_not_hits (h s List.mem_cons_self)]
    exact ih fun t ht => h t (List.mem_cons_of_mem s ht)

section

variable {σ : Type} {effectful : FieldValue → StateM σ FieldValue}

theorem firstHitM_of_empty {s : String} (h : raw s = "") (rest : List String) :
    firstHitM raw effectful (s :: rest) = firstHitM raw effectful rest := by
  rw [firstHitM, if_pos (by simp [h])]

theorem firstHitM_of_text {s : String} (h : raw s ≠ "") (rest : List String) (st : σ) :
    firstHitM raw effectful (s :: rest) st =
      if (effectful (.text (raw s)) st).1.isEmpty then
        firstHitM raw effectful rest (effectful (.text (raw s)) st).2
      else effectful (.text (raw s)) st := by
  rw [firstHitM, if_neg (by simpa using h)]
  change (if (effectful (.text (raw s)) st).1.isEmpty then firstHitM raw effectful rest
    else pure (effectful (.text (raw s)) st).1) (effectful (.text (raw s)) st).2 = _
  split <;> rfl

/-- What filters do besides giving a value, they do once for each text that they run on, in the
order of these. -/
theorem firstHitM_eq (h : ∀ v st, (effectful v st).1 = pipeline v) (ss : List String) (st : σ) :
    firstHitM raw effectful ss st =
      ((firstHit raw pipeline ss).value,
        (firstHit raw pipeline ss).inputs.foldl (fun st t => (effectful (.text t) st).2) st) := by
  induction ss generalizing st with
  | nil => exact Prod.ext (h _ _) rfl
  | cons s rest ih =>
    by_cases hraw : raw s = ""
    · have hmiss : ¬ Hits raw pipeline s := fun hhits => hhits.1 hraw
      rw [firstHitM_of_empty hraw, firstHit_of_not_hits hmiss, ih]
      simp [texts, hraw]
    · rw [firstHitM_of_text hraw, h]
      split
      next hblank =>
        have hmiss : ¬ Hits raw pipeline s := fun hhits => by simp [hhits.2] at hblank
        rw [firstHit_of_not_hits hmiss, ih]
        simp [texts, hraw]
      next hfilled =>
        -- Nothing runs behind the selector that hits, so that the state is left as it is.
        have hhits : Hits raw pipeline s := ⟨hraw, by simpa using hfilled⟩
        rw [firstHit_of_hits hhits]
        exact Prod.ext (h _ _) rfl

end

/-! ### Selectors that are none -/

/-- A selector that does not compile, or a path that is no path. -/
def Malformed : Source → String → Prop
  | .html _ _, s => Css.Selector.parse? s = none
  | .json _, s => Json.steps? s = none

theorem read_of_malformed {source : Source} {s : String} (h : Malformed source s)
    (q : FieldQuery) : read source s q = "" := by
  cases source with
  | html document scope =>
    have hparse : Css.Selector.parse? s = none := h
    rw [read, hparse]
    rfl
  | json value =>
    have hsteps : Json.steps? s = none := h
    rw [read, Json.at?, hsteps]
    rfl

/-- Of two chains the second counts just when nothing hits in the first, and nothing of it is read,
nor does a filter run for it, when something does. The selectors are read up to the one that hits;
the filters run once on each text that is found up to there, and once more, on the empty text, when
none hits, which holds also of what they do besides. One selector is a chain of one, and a selector
that is malformed never hits. -/
theorem run_append (source : Source) (q : FieldQuery) (filters : FilterRegistry)
    (xs ys : List String) :
    let raw := fun s => read source s q
    let pipeline := filters.applyAll q.filters
    let run := fun ss => run source { q with selectors := .many ss } filters
    ((∃ s ∈ xs, Hits raw pipeline s) → run (xs ++ ys) = run xs) ∧
    ((∀ s ∈ xs, ¬ Hits raw pipeline s) →
      extract source { q with selectors := .many (xs ++ ys) } filters =
        extract source { q with selectors := .many ys } filters) ∧
    (run xs).value = pipeline (.text (((xs.find? fun s => Hits raw pipeline s).map raw).getD "")) ∧
    (run xs).reads = tried raw pipeline xs ∧
    (run xs).inputs =
      texts raw (tried raw pipeline xs) ++
        (if ∃ s ∈ xs, Hits raw pipeline s then [] else [""]) ∧
    (∀ (σ : Type) (effectful : FieldValue → StateM σ FieldValue),
      (∀ v st, (effectful v st).1 = pipeline v) → ∀ st,
        firstHitM raw effectful xs st =
          ((run xs).value,
            (run xs).inputs.foldl (fun st t => (effectful (.text t) st).2) st)) ∧
    (∀ s, Extraction.run source { q with selectors := .one s } filters = run [s]) ∧
    ∀ s, Malformed source s → ¬ Hits raw pipeline s := by
  refine ⟨fun h => firstHit_append_of_hits h ys, fun h => value_firstHit_append h ys,
    value_firstHit xs, reads_firstHit xs, inputs_firstHit xs, ?_, fun _ => rfl, ?_⟩
  · intro σ effectful h st
    exact firstHitM_eq h xs st
  · intro s hmalformed hhits
    exact hhits.1 (read_of_malformed hmalformed q)

end Gleaner.Extraction
