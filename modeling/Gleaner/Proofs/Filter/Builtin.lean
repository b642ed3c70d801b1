import Gleaner.Filter.Builtin
import Gleaner.Proofs.Entity
import Gleaner.Proofs.Extraction
import Gleaner.Proofs.Filter.Zone
import Gleaner.Proofs.Url.Host
import Mathlib.Data.List.Induction

/-!
What the builtin filters leave alone. A number passes through all of them, and out of nothing they
make nothing: what a missed field extracts to is a zero value
(`FilterRegistry.builtin_keeps_misses`).
-/
namespace Gleaner

/-! ### Readers of the empty text -/

theorem Number.truncate_zero : Number.truncate 0.0 = 0.0 := by decide +kernel

theorem Url.query_of_parse_localhost {u : Url} (h : Url.parse "http://localhost/" = .ok u) :
    u.query = none := by
  have hsplit : splitScheme? (cleaned ("http://localhost/" : String).toList) =
      some ("http".toList, "//localhost/".toList) := by decide
  rw [Url.parse, resolve, hsplit] at h
  change afterSlashes "http".toList "localhost/".toList = .ok u at h
  obtain ⟨⟨authority, rest⟩, hauthority, h⟩ := bind_eq_ok.mp h
  change hostAndPort "http".toList [] [] "localhost/".toList = .ok (authority, rest) at hauthority
  obtain ⟨host, _, hauthority⟩ := bind_eq_ok.mp hauthority
  cases hauthority
  cases h
  rfl

/-- The empty link leads to its base. -/
theorem Url.query_of_join_empty {base u : Url} (h : base.join "" = .ok u) :
    u.query = base.query := by
  change relativeTo base [] = .ok u at h
  unfold relativeTo at h
  split at h
  · cases h
  · cases h
    rfl

namespace Filter

theorem queryParam_empty (key : String) : queryParam key "" = "" := by
  have hnone : Url.parse "" = .error .noBase := rfl
  rw [queryParam, hnone]
  cases hbase : Url.parse "http://localhost/" with
  | error e => rfl
  | ok base =>
    cases hjoin : base.join "" with
    | error e => simp [Except.toOption, hjoin]
    | ok u =>
      have hquery : u.query = none :=
        (Url.query_of_join_empty hjoin).trans (Url.query_of_parse_localhost hbase)
      simp [Except.toOption, hjoin, Url.queryPairs, hquery]

theorem groupText?_nil (slots : Pattern.Slots) (group : Nat) :
    (Pattern.groupText? [] slots group).getD [] = [] := by
  unfold Pattern.groupText?
  split
  · simp
  · rfl

/-- A match in the empty text is empty, as is every group of it. -/
theorem capture_empty (pattern : String) (group : Nat) : Pattern.capture pattern group "" = "" := by
  unfold Pattern.capture
  dsimp only
  split
  next => rfl
  next slots _ =>
    change String.ofList (((Pattern.groupText? [] slots group).or
      (Pattern.groupText? [] slots 0)).getD []) = ""
    cases h : Pattern.groupText? [] slots group with
    | none => rw [Option.none_or, groupText?_nil, String.ofList_nil]
    | some text =>
      have htext := groupText?_nil slots group
      rw [h, Option.getD_some] at htext
      rw [Option.some_or, Option.getD_some, htext, String.ofList_nil]

theorem replaceAll_empty {old : String} (h : old ≠ "") (new : String) :
    Text.replaceAll old new "" = "" := by
  have hold : old.isEmpty = false := by simpa using h
  simp [Text.replaceAll, hold, Text.replaceFrom]

theorem parseAt?_empty (now : Calendar.Instant) (offset : Option String) :
    Moment.parseAt? now "" offset = none := by
  unfold Moment.parseAt?
  cases offset.bind Moment.offset? <;> rfl

/-! ### Numbers and misses -/

/-- What a pipeline may make of a field that was missed: the empty text, or the number 0. -/
def Missed (value : FieldValue) : Prop := value = .text "" ∨ value = .number 0.0

theorem isZero_of_missed {value : FieldValue} (h : Missed value) : value.isZero = true := by
  rcases h with rfl | rfl
  · rfl
  · decide

def KeepsNumbers (f : Filter) : Prop := ∀ args x, f args (.number x) = .number x

/-- With the given arguments a filter makes nothing of the empty text. -/
def KeepsMissed (f : Filter) (args : List String) : Prop := Missed (f args (.text ""))

theorem keepsNumbers_withArgument (f : String → List String → String → String) :
    KeepsNumbers (withArgument f) := by
  intro args x
  cases args <;> rfl

theorem keepsMissed_ofText {f : String → String} (h : f "" = "") (args : List String) :
    KeepsMissed (ofText f) args :=
  Or.inl (congrArg FieldValue.text h)

theorem keepsMissed_ofReader {f : String → Float} (h : f "" = 0.0) (args : List String) :
    KeepsMissed (ofReader f) args :=
  Or.inr (congrArg FieldValue.number h)

theorem keepsMissed_withArgument {f : String → List String → String → String} {args : List String}
    (h : ∀ a rest, args = a :: rest → f a rest "" = "") : KeepsMissed (withArgument f) args := by
  cases args with
  | nil => exact Or.inl rfl
  | cons a rest => exact Or.inl (congrArg FieldValue.text (h a rest rfl))

theorem missed_instant (now : Int) (offset : Option String) :
    Missed (instant now offset (.text "")) := by
  rw [instant, parseAt?_empty]
  exact Or.inl rfl

theorem keepsNumbers_builtin (now : Int) : ∀ f ∈ builtin now, KeepsNumbers f.2 := by
  simp only [builtin, List.forall_mem_cons, keepsNumbers_withArgument, true_and]
  simp [KeepsNumbers, ofText, ofReader, FieldValue.mapText, FieldValue.readText, instant]

/-- Only a replacement of the empty text makes something of nothing. -/
theorem keepsMissed_builtin (now : Int) : ∀ f ∈ builtin now, ∀ args,
    (f.1 = "replace" → args.head? ≠ some "") → KeepsMissed f.2 args := by
  simp only [builtin, List.forall_mem_cons]
  refine ⟨fun args _ => keepsMissed_ofText rfl args, fun args _ => keepsMissed_ofText rfl args,
    fun args _ => keepsMissed_ofReader rfl args, fun args _ => keepsMissed_ofReader rfl args,
    fun args _ => keepsMissed_ofReader rfl args, fun args _ => keepsMissed_ofReader rfl args,
    fun args _ => keepsMissed_ofReader rfl args, ?parseInt,
    fun args _ => keepsMissed_ofReader rfl args, fun args _ => missed_instant now none,
    fun args _ => missed_instant now args.head?,
    fun args _ => keepsMissed_withArgument fun key _ _ => queryParam_empty key,
    fun args _ => keepsMissed_withArgument fun _ _ _ => rfl,
    fun args _ => keepsMissed_withArgument fun pattern rest _ => capture_empty pattern _,
    ?replace, fun args _ => keepsMissed_ofText rfl args, by simp⟩
  case parseInt =>
    have hleading : Number.leading "" = 0.0 := rfl
    exact fun args _ => keepsMissed_ofReader (by rw [hleading, Number.truncate_zero]) args
  case replace =>
    intro args hargs
    refine keepsMissed_withArgument fun old rest heq => replaceAll_empty ?_ _
    rintro rfl
    exact hargs trivial (by rw [heq, List.head?_cons])

end Filter

/-! ### Pipelines -/

/-- A step that makes something of the empty text: a replacement of it. -/
def FilterStep.FillsEmpty (step : FilterStep) : Prop :=
  step.name = "replace" ∧ step.args.head? = some ""

namespace FilterRegistry

open Gleaner.Filter

theorem mem_builtin_of_get? {now : Int} {name : String} {f : Filter}
    (h : (builtin now).filters.get? name = some f) : (name, f) ∈ Filter.builtin now := by
  have hmem : (name, f) ∈ (OrderedMap.ofList (Filter.builtin now)).entries :=
    Keyed.mem_of_lookup h
  rw [OrderedMap.ofList, OrderedMap.entries_insertAll] at hmem
  exact (Keyed.mem_foldl_put hmem).resolve_left List.not_mem_nil

theorem apply_number (now : Int) (step : FilterStep) (x : Float) :
    (builtin now).apply step (.number x) = .number x := by
  rw [apply]
  cases h : (builtin now).filters.get? step.name with
  | none => rfl
  | some f => exact keepsNumbers_builtin now _ (mem_builtin_of_get? h) step.args x

theorem apply_missed (now : Int) {step : FilterStep} (hstep : ¬ step.FillsEmpty)
    {value : FieldValue} (hvalue : Missed value) : Missed ((builtin now).apply step value) := by
  rcases hvalue with rfl | rfl
  · rw [apply]
    cases h : (builtin now).filters.get? step.name with
    | none => exact Or.inl rfl
    | some f =>
      exact keepsMissed_builtin now _ (mem_builtin_of_get? h) step.args
        fun hname hempty => hstep ⟨hname, hempty⟩
  · rw [apply_number]
    exact Or.inr rfl

theorem applyAll_number (now : Int) (steps : List FilterStep) (x : Float) :
    (builtin now).applyAll steps (.number x) = .number x := by
  induction steps with
  | nil => rfl
  | cons step steps ih => rw [applyAll_cons, apply_number, ih]

theorem applyAll_missed (now : Int) {steps : List FilterStep}
    (hsteps : ∀ step ∈ steps, ¬ step.FillsEmpty) {value : FieldValue} (hvalue : Missed value) :
    Missed ((builtin now).applyAll steps value) := by
  induction steps generalizing value with
  | nil => exact hvalue
  | cons step steps ih =>
    rw [applyAll_cons]
    exact ih (fun s hs => hsteps s (List.mem_cons_of_mem _ hs))
      (apply_missed now (hsteps step List.mem_cons_self) hvalue)

/-- An offset that is written into a step makes no replacement of it. -/
theorem fillsEmpty_inZone {zone : String} {step : FilterStep} :
    (step.inZone zone).FillsEmpty → step.FillsEmpty := by
  intro h
  have hname : step.name ≠ zoneFilter := by
    rw [← FilterStep.name_inZone zone step, h.1]
    decide
  rwa [FilterStep.inZone_of_name hname] at h

/-- Offsets that are bound to the filters are steps with an offset. -/
theorem applyAll_boundAll_eq (r : FilterRegistry) (zones : List String)
    (steps : List FilterStep) :
    ∃ steps', (∀ value, (r.boundAll zones).applyAll steps value = r.applyAll steps' value) ∧
      ((∀ step ∈ steps, ¬ step.FillsEmpty) → ∀ step ∈ steps', ¬ step.FillsEmpty) := by
  cases zones using List.reverseRecOn with
  | nil => exact ⟨steps, fun _ => rfl, id⟩
  | append_singleton zones zone =>
    refine ⟨steps.map (FilterStep.inZone zone), applyAll_boundAll r zones zone steps, ?_⟩
    intro h step hstep
    obtain ⟨original, horiginal, rfl⟩ := List.mem_map.mp hstep
    exact fun hfills => h original horiginal (fillsEmpty_inZone hfills)

/-- The builtin filters, with or without an offset bound to them, leave every number as it is. Of
the empty text they make nothing, unless they replace it: it stays, or becomes the number 0. So a
field whose selectors all miss has a zero value, and no field that is filled is lost when that value
is merged into it. -/
theorem builtin_keeps_misses (now : Int) (zones : List String) (steps : List FilterStep) :
    let filters := (builtin now).boundAll zones
    (∀ x, filters.applyAll steps (.number x) = .number x) ∧
    ((∀ step ∈ steps, step.name = "replace" → step.args.head? ≠ some "") →
      (filters.applyAll steps (.text "") = .text "" ∨
        filters.applyAll steps (.text "") = .number 0.0) ∧
      ∀ (source : Source) (q : FieldQuery), q.filters = steps →
        (∀ s ∈ q.selectors.toList,
          ¬ Extraction.Hits (fun s => Extraction.read source s q) (filters.applyAll steps) s) →
        (extract source q filters).isZero = true ∧
        ∀ (e other : Entity) (name : String),
          other.get? name = some (extract source q filters) → e.Filled name →
          (e.mergeFilled other).get? name = e.get? name) := by
  intro filters
  obtain ⟨steps', happly, hkept⟩ := applyAll_boundAll_eq (builtin now) zones steps
  refine ⟨fun x => (happly _).trans (applyAll_number now steps' x), fun hsteps => ?_⟩
  have hmissed : Missed (filters.applyAll steps (.text "")) := by
    rw [happly]
    exact applyAll_missed now (hkept fun step hstep h => hsteps step hstep h.1 h.2) (Or.inl rfl)
  refine ⟨hmissed, fun source q hq hmiss => ?_⟩
  have hzero : (extract source q filters).isZero = true := by
    have hnone : q.selectors.toList.find? (fun s =>
        Extraction.Hits (fun s => Extraction.read source s q) (filters.applyAll steps) s) = none :=
      List.find?_eq_none.mpr fun s hs => by simpa using hmiss s hs
    rw [extract, Extraction.run, hq, Extraction.value_firstHit, hnone]
    exact isZero_of_missed hmissed
  refine ⟨hzero, fun e other name hother hfilled => ?_⟩
  obtain ⟨old, hold, hnot⟩ := hfilled
  rw [Entity.get?_mergeFilled, hother, hold]
  simp [Entity.filling, hzero, hnot]

/-- A count that a page leaves out, read without its commas. -/
def countQuery : FieldQuery :=
  ((FieldQuery.ofSelectors (.one "seeders")).withFilter (.call "replace" [","])).withFilter
    (.named "parse_number")

theorem builtin_keeps_misses_count :
    (∀ step ∈ countQuery.filters, step.name = "replace" → step.args.head? ≠ some "") ∧
      (extract (.json .null) countQuery ((builtin 0).boundAll ["+0200"])).isZero = true := by
  have hsteps : ∀ step ∈ countQuery.filters, step.name = "replace" →
      step.args.head? ≠ some "" := by decide
  refine ⟨hsteps, (((builtin_keeps_misses 0 ["+0200"] _).2 hsteps).2 _ countQuery rfl ?_).1⟩
  intro s hs hhits
  have hselector : s = "seeders" := List.mem_singleton.mp hs
  subst hselector
  exact hhits.1 (by decide)

end FilterRegistry

end Gleaner
