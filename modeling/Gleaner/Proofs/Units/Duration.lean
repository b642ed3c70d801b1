import Gleaner.Proofs.Calendar.Date
import Gleaner.Proofs.Decimal.Digits
import Gleaner.Units.Duration

/-!
Ages counted back from an instant. Each step goes back by a stretch that its type can hold
(`exists_stretch?`), to an instant of the calendar that is not later (`Stretch.back?_within`), or it
leaves the instant as it is; so does a whole run (`rewind?_settles`).
-/
namespace Gleaner

open Calendar

namespace Calendar.Instant

/-- The instants there are: a second of the calendar, and less than two seconds' nanoseconds, since
another second may have been inserted behind it. -/
structure Representable (i : Instant) : Prop where
  first : firstSecond ≤ i.second
  last : i.second ≤ lastSecond
  nanos : i.nanos < 2000000000

/-- An instant of the calendar that is not later than another. -/
def Within (i now : Instant) : Prop :=
  i.second ≤ now.second ∧ (now.Representable → i.Representable)

theorem Within.refl (i : Instant) : i.Within i := ⟨le_rfl, id⟩

theorem Within.trans {i j k : Instant} (hij : i.Within j) (hjk : j.Within k) : i.Within k :=
  ⟨hij.1.trans hjk.1, fun hk => hij.2 (hjk.2 hk)⟩

end Calendar.Instant

namespace Calendar

theorem addSeconds?_eq_some {instant seconds moved : ℤ}
    (h : addSeconds? instant seconds = some moved) :
    moved = instant + seconds ∧ firstSecond ≤ moved ∧ moved ≤ lastSecond := by
  unfold addSeconds? at h
  dsimp only at h
  split at h
  next hrange =>
    cases h
    exact ⟨rfl, hrange⟩
  next => cases h

theorem within_of_secondsBack? {now i : Instant} {n : ℕ} (h : now.secondsBack? n = some i) :
    i.Within now := by
  unfold Instant.secondsBack? at h
  split at h
  next hinserted =>
    obtain ⟨s, hs, rfl⟩ := Option.map_eq_some_iff.mp h
    obtain ⟨hmoved, hfirst, hlast⟩ := addSeconds?_eq_some hs
    refine ⟨?_, fun hnow => ⟨hfirst, hlast, ?_⟩⟩
    · dsimp only
      omega
    · have := hnow.nanos
      dsimp only
      omega
  next =>
    obtain ⟨s, hs, rfl⟩ := Option.map_eq_some_iff.mp h
    obtain ⟨hmoved, hfirst, hlast⟩ := addSeconds?_eq_some hs
    refine ⟨?_, fun hnow => ⟨hfirst, hlast, hnow.nanos⟩⟩
    dsimp only
    omega

theorem within_of_monthsBack? {now i : Instant} {n : ℕ} (h : now.monthsBack? n = some i) :
    i.Within now := by
  obtain ⟨s, hs, rfl⟩ := Option.map_eq_some_iff.mp h
  obtain ⟨hfirst, hlast⟩ := addMonths?_calendar hs
  exact ⟨addMonths?_le hs, fun hnow => ⟨hfirst, hlast, hnow.nanos⟩⟩

end Calendar

namespace CalendarUnit

/-- A stretch that its type can hold: months of 32 bits, or a span whose milliseconds are a signed
number of 64 bits. -/
def Stretch.InRange : Stretch → Prop
  | .months n => n < 2 ^ 32
  | .seconds n => n * 1000 < 2 ^ 63

theorem exists_stretch? (u : CalendarUnit) {n : ℕ} (hn : n < 2 ^ 32) :
    ∃ s, u.stretch? n = some s ∧ s.InRange := by
  unfold stretch?
  cases hmonths : u.months with
  | some k =>
    refine ⟨_, rfl, ?_⟩
    have : min (n * k) (UInt32.size - 1) ≤ UInt32.size - 1 := min_le_right _ _
    unfold Stretch.InRange
    dsimp only [UInt32.size] at this ⊢
    omega
  | none =>
    have hlong : u.seconds ≤ 604800 := by cases u <;> decide
    have hspan : n * u.seconds ≤ (2 ^ 32 - 1) * 604800 := Nat.mul_le_mul (by omega) hlong
    refine ⟨.seconds (n * u.seconds), if_pos (hspan.trans (by decide)), ?_⟩
    unfold Stretch.InRange
    omega

theorem Stretch.within_of_back? {s : Stretch} {now i : Instant} (h : s.back? now = some i) :
    i.Within now := by
  cases s with
  | months n =>
    unfold Stretch.back? at h
    dsimp only at h
    split at h
    · exact within_of_monthsBack? h
    · cases h
  | seconds n => exact within_of_secondsBack? h

/-- Months that are counted up to 32 bits go back as far as the same months counted in full. -/
theorem Stretch.back?_of_months {u : CalendarUnit} {k n : ℕ} {s : Stretch} {now : Instant}
    (hmonths : u.months = some k) (hs : u.stretch? n = some s) (hnow : now.second ≤ lastSecond) :
    s.back? now = now.monthsBack? (n * k) := by
  unfold stretch? at hs
  rw [hmonths] at hs
  cases hs
  unfold Stretch.back?
  dsimp only
  have hsize : UInt32.size - 1 = 4294967295 := rfl
  split
  next hle =>
    unfold mostMonths at hle
    rw [hsize] at hle ⊢
    rw [min_eq_left (by omega)]
  next hlarge =>
    unfold mostMonths at hlarge
    rw [Instant.monthsBack?, addMonths?_eq_none hnow (by omega), Option.map_none]

end CalendarUnit

namespace Duration

/-! ### Steps and runs -/

theorem step?_within {qs : List Quantity} {i j : Instant} {u : CalendarUnit}
    (h : step? qs i u = some j) : j.Within i := by
  unfold step? at h
  split at h
  next n _ =>
    obtain ⟨s, -, rfl⟩ := Option.map_eq_some_iff.mp h
    cases hback : s.back? i with
    | none => exact Instant.Within.refl i
    | some j => exact CalendarUnit.Stretch.within_of_back? hback
  next =>
    cases h
    exact Instant.Within.refl i

theorem exists_step? {qs : List Quantity} (hqs : ∀ q ∈ qs, q.count < 2 ^ 32) (i : Instant)
    (u : CalendarUnit) : ∃ j, step? qs i u = some j := by
  unfold step?
  split
  next n hn =>
    obtain ⟨q, hq, rfl⟩ := Option.map_eq_some_iff.mp hn
    obtain ⟨s, hs, -⟩ := u.exists_stretch? (hqs q (List.mem_of_find?_eq_some hq))
    exact ⟨_, by rw [hs, Option.map_some]⟩
  next => exact ⟨i, rfl⟩

/-- The instant that some of the units lead to. -/
def along? (qs : List Quantity) (now : Instant) (units : List CalendarUnit) : Option Instant :=
  units.foldlM (step? qs) now

theorem along?_cons (qs : List Quantity) (now : Instant) (u : CalendarUnit)
    (units : List CalendarUnit) :
    along? qs now (u :: units) = (step? qs now u).bind fun i => along? qs i units := rfl

theorem along?_append (qs : List Quantity) (now : Instant) (units units' : List CalendarUnit) :
    along? qs now (units ++ units') = (along? qs now units).bind fun i => along? qs i units' := by
  unfold along?
  rw [List.foldlM_append]
  rfl

theorem back?_eq_along? (qs : List Quantity) (now : Instant) :
    back? qs now = along? qs now CalendarUnit.all := rfl

/-- What every step keeps is kept along all units. -/
theorem along?_induct {P : Instant → Prop} {qs : List Quantity}
    (hstep : ∀ i u j, P i → step? qs i u = some j → P j) {units : List CalendarUnit}
    {now j : Instant} (hnow : P now) (h : along? qs now units = some j) : P j := by
  induction units generalizing now with
  | nil =>
    cases h
    exact hnow
  | cons u units ih =>
    rw [along?_cons] at h
    obtain ⟨i, hi, h⟩ := Option.bind_eq_some_iff.mp h
    exact ih (hstep now u i hnow hi) h

theorem exists_along? {qs : List Quantity} (hqs : ∀ q ∈ qs, q.count < 2 ^ 32) (now : Instant)
    (units : List CalendarUnit) : ∃ i, along? qs now units = some i := by
  induction units generalizing now with
  | nil => exact ⟨now, rfl⟩
  | cons u units ih =>
    obtain ⟨i, hi⟩ := exists_step? hqs now u
    obtain ⟨j, hj⟩ := ih i
    exact ⟨j, by rw [along?_cons, hi, Option.bind_some, hj]⟩

theorem along?_within {qs : List Quantity} {now i : Instant} {units : List CalendarUnit}
    (h : along? qs now units = some i) : i.Within now :=
  along?_induct (P := fun i => i.Within now)
    (fun _ _ _ hi hstep => (step?_within hstep).trans hi) (Instant.Within.refl now) h

/-- Units with the same first quantities lead to the same instant. -/
theorem along?_congr {qs qs' : List Quantity} {units : List CalendarUnit}
    (h : ∀ u ∈ units, firstOf u qs = firstOf u qs') (now : Instant) :
    along? qs now units = along? qs' now units := by
  induction units generalizing now with
  | nil => rfl
  | cons u units ih =>
    have hstep : step? qs now u = step? qs' now u := by
      rw [step?, step?, h u List.mem_cons_self]
    rw [along?_cons, along?_cons, hstep]
    exact congrArg _ (funext fun i => ih (fun v hv => h v (List.mem_cons_of_mem u hv)) i)

/-! ### Quantities -/

theorem firstOf_filter_ne {u v : CalendarUnit} (huv : v ≠ u) (qs : List Quantity) :
    firstOf v (qs.filter fun q => q.unit ≠ u) = firstOf v qs := by
  unfold firstOf
  rw [List.find?_filter]
  congr 2
  funext q
  by_cases hv : q.unit = v <;> simp [hv, huv]

theorem firstOf_filter_self (u : CalendarUnit) (qs : List Quantity) :
    firstOf u (qs.filter fun q => q.unit ≠ u) = none := by
  unfold firstOf
  rw [List.find?_filter, Option.map_eq_none_iff, List.find?_eq_none]
  simp

/-- A unit that the calendar does not allow to go back by counts as if it were not written. -/
theorem back?_skip {qs : List Quantity} {now i : Instant} {before after : List CalendarUnit}
    {u : CalendarUnit} (hunits : CalendarUnit.all = before ++ u :: after)
    (hreach : along? qs now before = some i) (hskip : step? qs i u = some i) :
    back? qs now = back? (qs.filter fun q => q.unit ≠ u) now := by
  have hnodup : (before ++ u :: after).Nodup := hunits ▸ by decide
  have hother : ∀ v, v ≠ u → firstOf v qs = firstOf v (qs.filter fun q => q.unit ≠ u) :=
    fun v hv => (firstOf_filter_ne hv qs).symm
  have hbefore : ∀ v ∈ before, v ≠ u := by
    rintro v hv rfl
    exact (List.nodup_append.mp hnodup).2.2 v hv v List.mem_cons_self rfl
  have hafter : ∀ v ∈ after, v ≠ u := by
    rintro v hv rfl
    exact (List.nodup_cons.mp (List.nodup_append.mp hnodup).2.1).1 hv
  have hstep : step? (qs.filter fun q => q.unit ≠ u) i u = some i := by
    rw [step?, firstOf_filter_self]
  rw [back?_eq_along?, back?_eq_along?, hunits, along?_append, along?_append,
    ← along?_congr (fun v hv => hother v (hbefore v hv)), hreach, Option.bind_some,
    Option.bind_some, along?_cons, along?_cons, hskip, hstep, Option.bind_some, Option.bind_some]
  exact along?_congr (fun v hv => hother v (hafter v hv)) i

theorem count_lt_of_quantity? {w : List Char × List Char} {q : Quantity}
    (h : quantity? w = some q) : q.count < 2 ^ 32 := by
  unfold quantity? at h
  split at h
  next u n _ hn =>
    cases h
    exact Decimal.lt_of_natural? hn
  next => cases h

theorem count_lt_of_mem {text : String} {q : Quantity} (h : q ∈ quantities text) :
    q.count < 2 ^ 32 := by
  obtain ⟨w, -, hw⟩ := List.mem_filterMap.mp h
  exact count_lt_of_quantity? hw

theorem quantities_eq_nil {text : String}
    (h : ∀ w ∈ allWrittenIn text, CalendarUnit.ofToken? (String.ofList w.2) = none) :
    quantities text = [] := by
  apply List.filterMap_eq_nil_iff.mpr
  intro w hw
  rw [quantity?, h w hw]

theorem back?_nil (now : Instant) : back? [] now = some now := rfl

/-- When its turn comes, a unit has to go back further than the calendar does. -/
def Underruns (qs : List Quantity) (now : Instant) (u : CalendarUnit) : Prop :=
  ∃ before after i n s, CalendarUnit.all = before ++ u :: after ∧ along? qs now before = some i ∧
    firstOf u qs = some n ∧ u.stretch? n = some s ∧ s.back? i = none

/-- Whatever a text says, an age is counted back without a fault, to an instant of the calendar that
is not later; a unit that the calendar is too short for is left out. -/
theorem rewind?_settles (text : String) {now : Instant} (hnow : now.Representable) :
    (∃ i, rewind? text now = some i ∧ i.Representable ∧ i.second ≤ now.second ∧
      ((∀ w ∈ allWrittenIn text, CalendarUnit.ofToken? (String.ofList w.2) = none) → i = now)) ∧
    (∀ (u : CalendarUnit) (n : ℕ), n < 2 ^ 32 → ∃ s, u.stretch? n = some s ∧ s.InRange ∧
      ∀ k, u.months = some k → s = .months (min (n * k) (2 ^ 32 - 1)) ∧
        ∀ i : Instant, i.Representable → s.back? i = i.monthsBack? (n * k)) ∧
    (∀ u, Underruns (quantities text) now u →
      rewind? text now = back? ((quantities text).filter fun q => q.unit ≠ u) now) := by
  refine ⟨?_, fun u n hn => ?_, ?_⟩
  · obtain ⟨i, hi⟩ := exists_along? (fun q hq => count_lt_of_mem hq) now CalendarUnit.all
    have hwithin := along?_within hi
    refine ⟨i, hi, hwithin.2 hnow, hwithin.1, fun hnone => ?_⟩
    rw [quantities_eq_nil hnone, ← back?_eq_along?, back?_nil] at hi
    exact (Option.some.inj hi).symm
  · obtain ⟨s, hs, hrange⟩ := u.exists_stretch? hn
    refine ⟨s, hs, hrange, fun k hk => ⟨?_, fun i hi => ?_⟩⟩
    · rw [CalendarUnit.stretch?, hk] at hs
      exact (Option.some.inj hs).symm
    · exact CalendarUnit.Stretch.back?_of_months hk hs hi.last
  · rintro u ⟨before, after, i, n, s, hunits, hreach, hfirst, hs, hback⟩
    refine back?_skip hunits hreach ?_
    rw [step?, hfirst]
    dsimp only
    rw [hs, Option.map_some, hback, Option.getD_none]

theorem rewind?_beyond_calendar :
    (⟨0, 0⟩ : Instant).Representable ∧
      Underruns (quantities "300000 years 1 day") ⟨0, 0⟩ .year ∧
      rewind? "300000 years 1 day" ⟨0, 0⟩ = some ⟨-86400, 0⟩ := by
  have hnow : (⟨0, 0⟩ : Instant).Representable := ⟨by decide, by decide, by decide⟩
  have hyears : Underruns (quantities "300000 years 1 day") ⟨0, 0⟩ .year :=
    ⟨[], _, ⟨0, 0⟩, 300000, .months 3600000, rfl, rfl, by decide +kernel, by decide, by decide⟩
  have hskipped := (rewind?_settles "300000 years 1 day" hnow).2.2 .year hyears
  have hday : back? ((quantities "300000 years 1 day").filter fun q => q.unit ≠ .year) ⟨0, 0⟩ =
      some ⟨-86400, 0⟩ := by decide +kernel
  exact ⟨hnow, hyears, hskipped.trans hday⟩

end Duration

end Gleaner
