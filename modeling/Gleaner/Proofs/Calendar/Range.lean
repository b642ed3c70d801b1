import Gleaner.Calendar.Loose
import Gleaner.Proofs.Decimal.Digits

/-!
The range of what is read as a time. The fields of a clock time stay in their bounds, whatever the
format, and the date is one of the calendar, so that every time fits in 64 bits of milliseconds
(`isInt64_of_timestamp?`, `isInt64_of_mailDate?`, `isInt64_of_loose?`).
-/
namespace Gleaner.Calendar

/-- A signed number of 64 bits. -/
def IsInt64 (n : ℤ) : Prop := n.natAbs ≤ 2 ^ 63

section Fields

/-- The clock fields that are there, in their bounds. -/
structure Parts.Within (p : Parts) : Prop where
  hour : ∀ h ∈ p.hour, h ≤ 23
  hour12 : ∀ h ∈ p.hour12, h ≤ 11
  minute : ∀ m ∈ p.minute, m ≤ 59
  second : ∀ s ∈ p.second, s ≤ 60
  nanos : ∀ n ∈ p.nanos, n < 1000000000

theorem Parts.within_default : ({} : Parts).Within := by
  constructor <;> exact fun _ h => nomatch h

theorem field?_le {low high n : ℕ} {cs rest : List Char} (h : field? low high cs = some (n, rest)) :
    n ≤ high := by
  unfold field? at h
  split at h
  · split at h
    next hbounds =>
      cases h
      exact hbounds.2
    next => cases h
  · cases h

theorem nanos?_lt {cs rest : List Char} {n : ℕ} (h : nanos? cs = some (n, rest)) :
    n < 1000000000 := by
  unfold nanos? at h
  dsimp only at h
  split at h
  · cases h
  · cases h
    have hdigits : ∀ c ∈ (cs.takeWhile Char.isDigit).take 9, c.isDigit = true := fun c hc =>
      List.all_eq_true.mp List.all_takeWhile c (List.mem_of_mem_take hc)
    have hlength : ((cs.takeWhile Char.isDigit).take 9).length ≤ 9 := List.length_take_le _ _
    calc _ < 10 ^ ((cs.takeWhile Char.isDigit).take 9).length *
          10 ^ (9 - ((cs.takeWhile Char.isDigit).take 9).length) :=
        Nat.mul_lt_mul_of_pos_right (Decimal.digitsValue_lt hdigits) (Nat.pow_pos (by norm_num))
      _ = 1000000000 := by
        rw [← pow_add, Nat.add_sub_cancel' hlength]
        norm_num

/-- Every item keeps the clock fields in their bounds. -/
theorem Item.read?_within {i : Item} {p q : Parts} {cs rest : List Char} (hp : p.Within)
    (h : i.read? p cs = some (q, rest)) : q.Within := by
  cases i with
  | literal c =>
    simp only [read?] at h
    split at h
    · split at h
      · cases h
        exact hp
      · cases h
    · cases h
  | space | zoneName =>
    cases h
    exact hp
  | year | shortYear | month | day | monthAbbreviation | monthName | zone =>
    obtain ⟨r, -, hr⟩ := Option.map_eq_some_iff.mp h
    cases hr
    exact ⟨hp.hour, hp.hour12, hp.minute, hp.second, hp.nanos⟩
  | hour =>
    obtain ⟨r, hread, hr⟩ := Option.map_eq_some_iff.mp h
    cases hr
    exact { hp with hour := fun _ h => Option.some.inj h ▸ field?_le hread }
  | hour12 =>
    obtain ⟨r, -, hr⟩ := Option.map_eq_some_iff.mp h
    cases hr
    exact { hp with hour12 := fun _ h => Option.some.inj h ▸ by omega }
  | minute =>
    obtain ⟨r, hread, hr⟩ := Option.map_eq_some_iff.mp h
    cases hr
    exact { hp with minute := fun _ h => Option.some.inj h ▸ field?_le hread }
  | second =>
    obtain ⟨r, hread, hr⟩ := Option.map_eq_some_iff.mp h
    cases hr
    exact { hp with second := fun _ h => Option.some.inj h ▸ field?_le hread }
  | fraction =>
    simp only [read?] at h
    split at h
    · obtain ⟨r, hread, hr⟩ := Option.map_eq_some_iff.mp h
      cases hr
      exact { hp with nanos := fun _ h => Option.some.inj h ▸ nanos?_lt hread }
    · cases h
      exact hp
  | half =>
    simp only [read?] at h
    split at h
    · cases h
      exact ⟨hp.hour, hp.hour12, hp.minute, hp.second, hp.nanos⟩
    · split at h
      · cases h
        exact ⟨hp.hour, hp.hour12, hp.minute, hp.second, hp.nanos⟩
      · cases h

theorem Format.read?_within {f : Format} {p q : Parts} {cs rest : List Char} (hp : p.Within)
    (h : f.read? p cs = some (q, rest)) : q.Within := by
  induction f generalizing p cs with
  | nil =>
    cases h
    exact hp
  | cons i f ih =>
    simp only [read?] at h
    split at h
    next hitem => exact ih (Item.read?_within hp hitem) h
    next => cases h

theorem Format.parse?_within {f : Format} {cs : List Char} {p : Parts} (h : f.parse? cs = some p) :
    p.Within := by
  unfold parse? at h
  split at h
  next hread =>
    cases h
    exact read?_within Parts.within_default hread
  next => cases h

end Fields

section Instants

/-- A wall-clock time of a day of the calendar. -/
structure LocalTime.Within (t : LocalTime) : Prop where
  day : t.date.toDays.natAbs ≤ 200000000
  second : t.second < 86400
  nanos : t.nanos < 2000000000

theorem natAbs_toDays_le {d : Date} (hfirst : firstYear ≤ d.year) (hlast : d.year ≤ lastYear)
    (hday : d.day ≤ 31) : d.toDays.natAbs ≤ 200000000 := by
  unfold Date.toDays
  simp only [firstYear, lastYear, Int.fdiv_eq_ediv_of_nonneg _ (by norm_num : (0 : ℤ) ≤ 400)] at *
  split <;> omega

theorem monthDays_le (year : ℤ) (month : ℕ) : monthDays year month ≤ 31 := by
  unfold monthDays
  cases isLeap year <;> split <;> simp

theorem natAbs_toDays_of_ofParts? {year : ℤ} {month day : ℕ} {d : Date}
    (h : Date.ofParts? year month day = some d) : d.toDays.natAbs ≤ 200000000 := by
  unfold Date.ofParts? at h
  split at h
  next hbounds =>
    cases h
    exact natAbs_toDays_le hbounds.1 hbounds.2.1 (hbounds.2.2.2.trans (monthDays_le year month))
  next => cases h

theorem Parts.natAbs_toDays_of_date? {p : Parts} {d : Date} (h : p.date? = some d) :
    d.toDays.natAbs ≤ 200000000 := by
  unfold date? at h
  split at h
  next => exact natAbs_toDays_of_ofParts? (Option.filter_eq_some_iff.mp h).1
  next => cases h

theorem Parts.nanos_lt_of_time? {p : Parts} (hp : ∀ n ∈ p.nanos, n < 1000000000) {s n : ℕ}
    (h : p.time? = some (s, n)) : n < 2000000000 := by
  have hnanos : p.nanos.getD 0 < 1000000000 := by
    cases hn : p.nanos with
    | none => exact Nat.succ_pos _
    | some n => exact hp n hn
  unfold time? at h
  split at h
  next =>
    dsimp only at h
    split at h <;> cases h <;> omega
  next => cases h

theorem Parts.Within.second_lt {p : Parts} (hp : p.Within) {s n : ℕ} (h : p.time? = some (s, n)) :
    s < 86400 := by
  have hsecond : p.second.getD 0 ≤ 60 := by
    cases hs : p.second with
    | none => exact Nat.zero_le _
    | some s => exact hp.second s hs
  unfold time? at h
  split at h
  next hour minute hhour hminute =>
    have hminute := hp.minute minute hminute
    have hhour : hour ≤ 23 := by
      unfold hour? at hhour
      split at hhour
      next heq =>
        cases hhour
        exact hp.hour _ heq
      next afternoon _ heq _ =>
        cases hhour
        have := hp.hour12 _ heq
        split <;> omega
      next => cases hhour
    dsimp only at h
    split at h <;> cases h <;> omega
  next => cases h

theorem Parts.Within.localTime? {p : Parts} (hp : p.Within) {t : LocalTime}
    (h : p.localTime? = some t) : t.Within := by
  unfold Parts.localTime? at h
  split at h
  next hdate htime =>
    cases h
    exact ⟨natAbs_toDays_of_date? hdate, hp.second_lt htime, nanos_lt_of_time? hp.nanos htime⟩
  next => cases h

theorem Parts.within_of_midnight? {p : Parts} {t : LocalTime} (h : p.midnight? = some t) :
    t.Within := by
  obtain ⟨d, hd, rfl⟩ := Option.map_eq_some_iff.mp h
  exact ⟨natAbs_toDays_of_date? hd, by norm_num, by norm_num⟩

theorem firstSecond_eq : firstSecond = -8334601228800 := by decide

theorem lastSecond_eq : lastSecond = 8210266876799 := by decide

theorem LocalTime.Within.millis {t : LocalTime} (h : t.Within) : IsInt64 (t.millis 0) := by
  have := h.day
  have := h.second
  have := h.nanos
  unfold IsInt64 LocalTime.millis LocalTime.instant daySeconds
  omega

/-- Where the instant is looked at, nothing else is asked of the time. -/
theorem LocalTime.isInt64_of_millis? {t : LocalTime} (hnanos : t.nanos < 2000000000)
    {offset ms : ℤ} (h : t.millis? offset = some ms) : IsInt64 ms := by
  unfold millis? at h
  dsimp only at h
  rw [firstSecond_eq, lastSecond_eq] at h
  split at h
  next hrange =>
    cases h
    unfold IsInt64 millis
    omega
  next => cases h

theorem Parts.isInt64_of_instantMillis? {p : Parts} (hp : ∀ n ∈ p.nanos, n < 1000000000) {ms : ℤ}
    (h : p.instantMillis? = some ms) : IsInt64 ms := by
  unfold instantMillis? at h
  split at h
  next t offset htime _ =>
    split at h
    · refine LocalTime.isInt64_of_millis? ?_ h
      unfold localTime? at htime
      split at htime
      next hclock =>
        cases htime
        exact nanos_lt_of_time? hp hclock
      next => cases htime
    · cases h
  next => cases h

theorem isInt64_of_addSeconds? {instant seconds moved : ℤ}
    (h : addSeconds? instant seconds = some moved) : IsInt64 moved := by
  unfold addSeconds? at h
  dsimp only at h
  rw [firstSecond_eq, lastSecond_eq] at h
  split at h
  next hrange =>
    cases h
    unfold IsInt64
    omega
  next => cases h

theorem isInt64_of_addMonths? {instant months moved : ℤ}
    (h : addMonths? instant months = some moved) : IsInt64 moved := by
  obtain ⟨d, hd, rfl⟩ := Option.map_eq_some_iff.mp h
  have hday : d.toDays.natAbs ≤ 200000000 := natAbs_toDays_of_ofParts? hd
  unfold IsInt64
  rw [Int.fdiv_eq_ediv_of_nonneg _ (by decide : 0 ≤ daySeconds)]
  unfold daySeconds
  omega

end Instants

section Readers

/-- An instant that is read in steps is bounded when what the last step makes of it is. -/
theorem isInt64_bind {α : Type} {x : Option α} {f : α → Option ℤ}
    (h : ∀ a ∈ x, ∀ ms ∈ f a, IsInt64 ms) : ∀ ms ∈ x.bind f, IsInt64 ms := by
  intro ms hms
  obtain ⟨a, ha, hms⟩ := Option.bind_eq_some_iff.mp hms
  exact h a ha ms hms

theorem isInt64_ite {c : Prop} [Decidable c] {p : Parts}
    (hp : ∀ n ∈ p.nanos, n < 1000000000) :
    ∀ ms ∈ if c then p.instantMillis? else none, IsInt64 ms := by
  intro ms hms
  split at hms
  · exact Parts.isInt64_of_instantMillis? hp hms
  · cases hms

theorem isInt64_of_timestamp? {cs : List Char} : ∀ ms ∈ timestamp? cs, IsInt64 ms := by
  unfold timestamp?
  iterate 7 refine isInt64_bind fun _ _ => ?_
  extract_lets clock
  -- The clock time is read alike behind the three separators.
  have hclock : ∀ cs, ∀ ms ∈ clock cs, IsInt64 ms := by
    intro cs
    iterate 8 refine isInt64_bind fun _ _ => ?_
    extract_lets zone
    have hzone : ∀ r : ℕ × List Char, r.1 < 1000000000 → ∀ ms ∈ zone r, IsInt64 ms := by
      intro r hnanos
      refine isInt64_bind fun _ _ => isInt64_ite fun n hn => ?_
      exact Option.some.inj hn ▸ hnanos
    split
    · exact isInt64_bind fun r hr => hzone r (nanos?_lt hr)
    · exact hzone (0, _) (by norm_num)
  split
  case h_4 => exact isInt64_bind fun _ h => nomatch h
  all_goals exact isInt64_bind fun cs _ => hclock cs

theorem isInt64_of_mailDate? {cs : List Char} : ∀ ms ∈ mailDate? cs, IsInt64 ms := by
  unfold mailDate?
  iterate 13 refine isInt64_bind fun _ _ => ?_
  extract_lets zone
  have hzone : ∀ r : ℕ × List Char, ∀ ms ∈ zone r, IsInt64 ms := by
    intro r
    iterate 3 refine isInt64_bind fun _ _ => ?_
    exact isInt64_ite fun n hn => nomatch hn
  split
  · exact isInt64_bind fun r _ => hzone r
  · exact hzone (0, _)

theorem isInt64_of_nanosecondEpoch? {cs : List Char} {ms : ℤ} (h : nanosecondEpoch? cs = some ms) :
    IsInt64 ms := by
  unfold nanosecondEpoch? at h
  split at h
  · dsimp only at h
    split at h
    next hlt =>
      cases h
      unfold IsInt64
      rw [Nat.pow_eq] at hlt
      omega
    next => cases h
  next => cases h

variable {now : Instant} {offset ms : ℤ} {cs : List Char}

theorem Parts.Within.nanos_lt_of_completed? {p : Parts} (hp : p.Within) {present t : LocalTime}
    (hpresent : present.nanos < 2000000000) {told : Told}
    (h : p.completed? present told = some t) : t.nanos < 2000000000 := by
  cases told with
  | all => exact (hp.localTime? h).nanos
  | date =>
    obtain ⟨d, -, rfl⟩ := Option.map_eq_some_iff.mp h
    exact hpresent
  | time =>
    obtain ⟨⟨s, n⟩, htime, rfl⟩ := Option.map_eq_some_iff.mp h
    exact Parts.nanos_lt_of_time? hp.nanos htime

theorem isInt64_of_millisAt? {f : Form} (hnow : now.nanos < 2000000000)
    (h : f.millisAt? now offset cs = some ms) : IsInt64 ms := by
  obtain ⟨t, ht, h⟩ := Option.bind_eq_some_iff.mp h
  obtain ⟨format, -, hformat⟩ := List.exists_of_findSome?_eq_some ht
  obtain ⟨p, hp, hcompleted⟩ := Option.bind_eq_some_iff.mp hformat
  have hwithin : p.Within := Format.parse?_within hp
  exact LocalTime.isInt64_of_millis? (hwithin.nanos_lt_of_completed? hnow hcompleted) h

theorem isInt64_of_instantMillis? {f : Form} (h : f.instantMillis? now offset cs = some ms) :
    IsInt64 ms := by
  obtain ⟨p, hp, h⟩ := Option.bind_eq_some_iff.mp h
  obtain ⟨format, -, hformat⟩ := List.exists_of_findSome?_eq_some hp
  have hwithin : p.Within := Format.parse?_within (Option.filter_eq_some_iff.mp hformat).1
  exact Parts.isInt64_of_instantMillis? hwithin.nanos h

theorem eq_some_of_ofOption {answer : Option ℤ} (h : Attempt.ofOption answer = .found ms) :
    answer = some ms := by
  cases answer with
  | none => cases h
  | some i =>
    cases h
    rfl

theorem isInt64_of_try {f : Form} {c : Pattern.Compiled} (hnow : now.nanos < 2000000000)
    (h : f.try c now offset cs = .found ms) : IsInt64 ms := by
  unfold Form.try at h
  split at h
  · cases h
  split at h
  · exact isInt64_of_millisAt? hnow (eq_some_of_ofOption h)
  · exact isInt64_of_instantMillis? (eq_some_of_ofOption h)
  · split at h
    · cases h
    · exact isInt64_of_millisAt? hnow (eq_some_of_ofOption h)

theorem isInt64_of_tryForms (hnow : now.nanos < 2000000000)
    {forms : List (Form × Pattern.Compiled)} (h : tryForms now offset cs forms = some ms) :
    IsInt64 ms := by
  induction forms with
  | nil => cases h
  | cons f forms ih =>
    unfold tryForms at h
    split at h
    next htry =>
      cases h
      exact isInt64_of_try hnow htry
    next => cases h
    next => exact ih h

theorem isInt64_of_loose? (hnow : now.nanos < 2000000000) (h : loose? now offset cs = some ms) :
    IsInt64 ms := by
  rcases Option.or_eq_some_iff.mp h with h | ⟨-, h⟩
  · exact isInt64_of_nanosecondEpoch? h
  · exact isInt64_of_tryForms hnow h

end Readers

end Gleaner.Calendar
