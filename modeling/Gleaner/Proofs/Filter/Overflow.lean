import Gleaner.Proofs.Entity.Readable
import Gleaner.Proofs.Filter.Builtin
import Gleaner.Proofs.Units.Finite

/-!
Pipelines of builtin filters that end in a number JSON cannot write. Six of the filters read a
numeral, and a pipeline ends in such a number just when one of them reads a numeral that overflows
(`FilterRegistry.applyAll_overflows`).
-/
namespace Gleaner

open Decimal

namespace Filter

/-- The filters that read a numeral: the numeral that each reads in a text, and the power of 1024 it
is scaled by. -/
def numerals : List (String × (String → Option (Numeral × ℕ))) :=
  [("parse_size", fun s => Size.numeral? s.toList),
    ("find_then_parse_size", fun s => (Scan.first? Size.token? s.toList).bind Size.numeral?),
    ("parse_number", fun s => (Number.numeral? s.toList).map (·, 0)),
    ("find_then_parse_number", fun s =>
      ((Scan.first? Number.token? s.toList).bind Number.numeral?).map (·, 0)),
    ("parse_float", fun s => ((Number.leading? s.toList).bind Numeral.read?).map (·, 0)),
    ("parse_int", fun s => ((Number.leading? s.toList).bind Numeral.read?).map (·, 0))]

/-- The filter of a name reads a numeral in a text that overflows. -/
def Overflows (name : String) (s : String) : Prop :=
  ∃ n, (numerals.lookup name).bind (· s) = some n ∧ n.1.Overflows n.2

/-- A filter makes a number that is not finite of just those texts that overflow. -/
def OverflowsAs (name : String) (f : Filter) : Prop :=
  ∀ args s, (∃ x, f args (.text s) = .number x ∧ x.isFinite = false) ↔ Overflows name s

theorem overflowsAs_of_finite {name : String} {f : Filter} (hname : numerals.lookup name = none)
    (hf : ∀ args s, (f args (.text s)).Finite) : OverflowsAs name f := by
  intro args s
  refine iff_of_false ?_ ?_
  · rintro ⟨x, hx, hinfinite⟩
    have hfinite := hf args s
    rw [hx] at hfinite
    exact Bool.false_ne_true (hinfinite.symm.trans hfinite)
  · rintro ⟨n, hn, -⟩
    rw [hname] at hn
    cases hn

theorem overflowsAs_ofReader {name : String} {f : String → Float}
    {numeral? : String → Option (Numeral × ℕ)} (hname : numerals.lookup name = some numeral?)
    (hf : ∀ s, (f s).isFinite = false ↔ ∃ n, numeral? s = some n ∧ n.1.Overflows n.2) :
    OverflowsAs name (ofReader f) := by
  intro args s
  rw [Overflows, hname, Option.bind_some, ← hf]
  simp [ofReader, FieldValue.readText]

theorem finite_withArgument (f : String → List String → String → String) (args : List String)
    (s : String) : (withArgument f args (.text s)).Finite := by
  cases args <;> trivial

theorem finite_instant (now : ℤ) (offset : Option String) (s : String) :
    (instant now offset (.text s)).Finite := by
  unfold instant
  dsimp only
  split
  next h => exact isFinite_ofInt (Moment.isInt64_of_parseAt? (by norm_num) h)
  next => trivial

theorem isFinite_elapsed (now : Int64) (s : String) : (elapsed now.toInt s).isFinite = true := by
  unfold elapsed
  split
  · exact isFinite_zero
  · refine isFinite_ofInt (isInt64_before s ?_)
    have := now.le_toInt
    have := now.toInt_lt
    unfold Calendar.IsInt64
    omega

theorem isFinite_find_size (s : String) : (Size.find s).isFinite = false ↔
    ∃ n, (Scan.first? Size.token? s.toList).bind Size.numeral? = some n ∧ n.1.Overflows n.2 := by
  unfold Size.find
  cases Scan.first? Size.token? s.toList with
  | none => exact iff_of_false (by simp [isFinite_zero]) (by simp)
  | some token => exact Size.isFinite_parseChars token

theorem isFinite_find_number (s : String) : (Number.find s).isFinite = false ↔
    ∃ n, (Scan.first? Number.token? s.toList).bind Number.numeral? = some n ∧ n.Overflows 0 := by
  unfold Number.find
  cases Scan.first? Number.token? s.toList with
  | none => exact iff_of_false (by simp [isFinite_zero]) (by simp)
  | some token =>
    unfold Number.parseChars Decimal.float?
    exact Number.isFinite_getD (Number.numeral? token)

theorem isFinite_leading (s : String) : (Number.leading s).isFinite = false ↔
    ∃ n, (Number.leading? s.toList).bind Numeral.read? = some n ∧ n.Overflows 0 := by
  rw [← Number.isFinite_getD, Option.map_bind]
  rfl

theorem exists_map_zero {o : Option Numeral} :
    (∃ n, o.map (·, 0) = some n ∧ n.1.Overflows n.2) ↔ ∃ n, o = some n ∧ n.Overflows 0 := by
  cases o <;> simp

theorem overflowsAs_builtin (now : Int64) : ∀ f ∈ builtin now.toInt, OverflowsAs f.1 f.2 := by
  simp only [builtin, List.forall_mem_cons]
  refine ⟨overflowsAs_of_finite rfl fun _ _ => trivial,
    overflowsAs_of_finite rfl fun _ _ => trivial,
    overflowsAs_ofReader rfl fun s => Size.isFinite_parseChars s.toList,
    overflowsAs_ofReader rfl isFinite_find_size,
    overflowsAs_ofReader rfl fun s => ?number,
    overflowsAs_ofReader rfl fun s => ?findNumber,
    overflowsAs_ofReader rfl fun s => ?float,
    overflowsAs_ofReader rfl fun s => ?int,
    overflowsAs_of_finite rfl fun _ s => isFinite_elapsed now s,
    overflowsAs_of_finite rfl fun _ s => finite_instant _ none s,
    overflowsAs_of_finite rfl fun args s => finite_instant _ args.head? s,
    overflowsAs_of_finite rfl (finite_withArgument _),
    overflowsAs_of_finite rfl (finite_withArgument _),
    overflowsAs_of_finite rfl (finite_withArgument _),
    overflowsAs_of_finite rfl (finite_withArgument _),
    overflowsAs_of_finite rfl fun _ _ => trivial, by simp⟩
  case number => exact (Number.isFinite_getD _).trans exists_map_zero.symm
  case findNumber => exact (isFinite_find_number s).trans exists_map_zero.symm
  case float => exact (isFinite_leading s).trans exists_map_zero.symm
  case int =>
    rw [Number.isFinite_truncate]
    exact (isFinite_leading s).trans exists_map_zero.symm

end Filter

namespace FilterRegistry

open Gleaner.Filter

/-- Somewhere in a pipeline a filter reads, in what the text has become there, a numeral that
overflows. -/
def OverflowsIn (r : FilterRegistry) (steps : List FilterStep) (raw : String) : Prop :=
  ∃ before step after s, steps = before ++ step :: after ∧
    r.applyAll before (.text raw) = .text s ∧ Overflows step.name s

/-- The laws of a registry that a pipeline keeps to. -/
structure Overflowing (r : FilterRegistry) : Prop where
  number : ∀ step x, r.apply step (.number x) = .number x
  text : ∀ step s, (∃ x, r.apply step (.text s) = .number x ∧ x.isFinite = false) ↔
    Overflows step.name s

theorem exists_of_mem_numerals (now : ℤ) {name : String} (h : name ∈ Keyed.keys numerals) :
    ∃ f, (builtin now).filters.get? name = some f := by
  have hnodup : (Keyed.keys (Filter.builtin now)).Nodup := by
    simp [Filter.builtin, Keyed.keys, zoneFilter]
  have hname : name ∈ Keyed.keys (Filter.builtin now) := by
    simp only [numerals, Keyed.keys_cons, Keyed.keys_nil, List.mem_cons] at h
    simp only [Filter.builtin, Keyed.keys_cons, List.mem_cons]
    tauto
  rw [← OrderedMap.entries_ofList hnodup] at hname
  exact OrderedMap.mem_keys_iff.mp hname

theorem overflowing_builtin (now : Int64) : Overflowing (builtin now.toInt) where
  number step x := apply_number now.toInt step x
  text step s := by
    rw [apply]
    cases h : (builtin now.toInt).filters.get? step.name with
    | some f => exact overflowsAs_builtin now _ (mem_builtin_of_get? h) step.args s
    | none =>
      refine iff_of_false ?_ ?_
      · rintro ⟨x, hx, -⟩
        cases hx
      · rintro ⟨n, hn, -⟩
        obtain ⟨read?, hread, -⟩ := Option.bind_eq_some_iff.mp hn
        obtain ⟨f, hf⟩ := exists_of_mem_numerals now.toInt (Keyed.mem_keys_of_lookup hread)
        rw [h] at hf
        cases hf

theorem Overflowing.withDefaultZone {r : FilterRegistry} (h : r.Overflowing) (zone : String) :
    (r.withDefaultZone zone).Overflowing where
  number step x := by rw [apply_withDefaultZone, h.number]
  text step s := by
    have := h.text (step.inZone zone) s
    rwa [FilterStep.name_inZone, ← apply_withDefaultZone] at this

theorem Overflowing.boundAll {r : FilterRegistry} (h : r.Overflowing) (zones : List String) :
    (r.boundAll zones).Overflowing := by
  induction zones generalizing r with
  | nil => exact h
  | cons zone zones ih => exact ih (h.withDefaultZone zone)

theorem Overflowing.applyAll_number {r : FilterRegistry} (h : r.Overflowing)
    (steps : List FilterStep) (x : Float) : r.applyAll steps (.number x) = .number x := by
  induction steps with
  | nil => rfl
  | cons step steps ih => rw [applyAll_cons, h.number, ih]

/-- What follows a step that leaves a text goes on from there. -/
theorem overflowsIn_cons_text {r : FilterRegistry} {step : FilterStep} {steps : List FilterStep}
    {raw t : String} (h : r.apply step (.text raw) = .text t) (hstep : ¬ Overflows step.name raw) :
    r.OverflowsIn (step :: steps) raw ↔ r.OverflowsIn steps t := by
  constructor
  · rintro ⟨before, bad, after, s, hsteps, hbefore, hbad⟩
    cases before with
    | nil =>
      cases hsteps
      cases hbefore
      exact absurd hbad hstep
    | cons first before =>
      cases hsteps
      rw [applyAll_cons, h] at hbefore
      exact ⟨before, bad, after, s, rfl, hbefore, hbad⟩
  · rintro ⟨before, bad, after, s, rfl, hbefore, hbad⟩
    exact ⟨step :: before, bad, after, s, rfl, by rw [applyAll_cons, h, hbefore], hbad⟩

/-- A step that makes a number ends the reading. -/
theorem overflowsIn_cons_number {r : FilterRegistry} (hr : r.Overflowing) {step : FilterStep}
    {steps : List FilterStep} {raw : String} {x : Float}
    (h : r.apply step (.text raw) = .number x) :
    r.OverflowsIn (step :: steps) raw ↔ Overflows step.name raw := by
  constructor
  · rintro ⟨before, bad, after, s, hsteps, hbefore, hbad⟩
    cases before with
    | nil =>
      cases hsteps
      cases hbefore
      exact hbad
    | cons first before =>
      cases hsteps
      rw [applyAll_cons, h, hr.applyAll_number] at hbefore
      cases hbefore
  · exact fun hbad => ⟨[], step, steps, raw, rfl, rfl, hbad⟩

/-- A pipeline ends in a number that is not finite just when it reads a numeral that overflows. -/
theorem Overflowing.applyAll {r : FilterRegistry} (h : r.Overflowing) (steps : List FilterStep)
    (raw : String) : (r.applyAll steps (.text raw)).Finite ↔ ¬ r.OverflowsIn steps raw := by
  induction steps generalizing raw with
  | nil =>
    refine iff_of_true trivial ?_
    rintro ⟨before, step, after, s, hsteps, -⟩
    cases before <;> cases hsteps
  | cons step steps ih =>
    rw [applyAll_cons]
    cases hstep : r.apply step (.text raw) with
    | text t =>
      have hnot : ¬ Overflows step.name raw := by
        rw [← h.text, hstep]
        rintro ⟨x, hx, -⟩
        cases hx
      rw [ih, overflowsIn_cons_text hstep hnot]
    | number x =>
      rw [h.applyAll_number, overflowsIn_cons_number h hstep, ← h.text, hstep]
      simp [FieldValue.Finite]

end FilterRegistry

end Gleaner
