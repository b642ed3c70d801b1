import Gleaner.Proofs.Calendar.Printed
import Gleaner.Proofs.Units.Moment

/-!
Naive times are read as they were printed. A text that was printed by one format is read by another
only where it could have been printed by that as well, and then it says the same
(`exists_print_of_leaves`), so that the order of the formats does not matter.
-/
namespace Gleaner.Moment

open Calendar

/-! ### A format reads what it prints -/

theorem legible_of_mem_clockTimes {time : Format} (h : time ∈ clockTimes) : time.Legible := by
  have hsecond : ∀ {f : Format}, f.Legible → Format.Legible (.literal ':' :: .second :: f) :=
    fun hf => .literal rfl (.word rfl hf)
  have hminutes : ∀ {f : Format}, f.Legible → Format.Legible (minutes ++ f) :=
    fun hf => .word rfl (.literal rfl (.word rfl hf))
  simp only [clockTimes, List.mem_cons, List.not_mem_nil, or_false] at h
  rcases h with rfl | rfl | rfl
  · exact hminutes .nil
  · exact hminutes (hsecond .nil)
  · exact hminutes (hsecond .fraction)

theorem NaiveFormat.exists_word {f : Format} (hf : NaiveFormat f) :
    ∃ i g, f = i :: g ∧ i.isWord = true ∧ Format.Legible (i :: g) := by
  have hdate : ∀ {separator : Char} {g : Format}, separator = '-' ∨ separator = '/' →
      g.Legible → Format.Legible (numericDate separator ++ g) := by
    intro separator g hseparator hg
    have hblank : Text.isBlank separator = false := by rcases hseparator with rfl | rfl <;> rfl
    exact .word rfl (.literal hblank (.word rfl (.literal hblank (.word rfl hg))))
  cases hf with
  | date hseparator => exact ⟨.year, _, rfl, rfl, hdate hseparator .nil⟩
  | @dateTime separator joint time hseparator hjoint htime =>
    have hlegible := legible_of_mem_clockTimes htime
    refine ⟨.year, _, rfl, rfl, hdate hseparator ?_⟩
    rcases hjoint with rfl | rfl
    · obtain ⟨f, rfl⟩ := exists_hour htime
      exact .space rfl hlegible
    · exact .literal rfl hlegible
  | dayFirst =>
    refine ⟨.day, _, rfl, rfl, .word rfl (.space rfl (.word rfl (.space rfl (.word rfl ?_))))⟩
    exact .space rfl (legible_of_mem_clockTimes seconds_mem)
  | monthFirst =>
    refine ⟨.monthAbbreviation, _, rfl, rfl, .word rfl (.space rfl (.word rfl (.space rfl (.word rfl
      (.literal rfl ?_)))))⟩
    exact .space rfl (legible_of_mem_clockTimes minutes_mem)

section

variable {places : ℕ} {t : LocalTime} (ht : t.Printable)

include ht

theorem parse?_print_naive (hplaces : places ≤ 9) {f : Format} (hf : NaiveFormat f) :
    f.parse? (f.print places t) = some (f.put places t {}) := by
  obtain ⟨i, g, rfl, -, hlegible⟩ := hf.exists_word
  exact Format.parse?_print ht hplaces hlegible

/-- What a date says. -/
def dated (t : LocalTime) : Parts :=
  { year := some t.date.year, month := some t.date.month, day := some t.date.day }

omit ht in
theorem shown_dateTime {joint : Item} (hjoint : joint = .space ∨ joint = .literal 'T')
    (separator : Char) (time : Format) :
    Format.shown places t (numericDate separator ++ joint :: time) = time.shown places t := by
  rcases hjoint with rfl | rfl <;> simp [Format.shown, numericDate]

omit ht in
theorem print_dateTime {joint : Item} (hjoint : joint = .space ∨ joint = .literal 'T')
    (separator : Char) (time : Format) :
    Format.print places t (numericDate separator ++ joint :: time) =
      Format.print 0 t (numericDate separator ++ [joint]) ++ time.print places t := by
  rcases hjoint with rfl | rfl <;>
  · simp only [Format.print, numericDate, List.flatMap_append, List.flatMap_cons, List.flatMap_nil,
      List.append_nil, List.append_assoc]
    rfl

omit ht in
theorem NaiveFormat.split {f : Format} (hf : NaiveFormat f) (places : ℕ) (t : LocalTime) :
    (∃ separator, f = numericDate separator) ∨ ∃ time ∈ clockTimes,
      f.put places t {} = time.put places t (dated t) ∧ f.shown places t = time.shown places t := by
  cases hf with
  | @date separator hseparator => exact Or.inl ⟨separator, rfl⟩
  | @dateTime separator joint time hseparator hjoint htime =>
    refine Or.inr ⟨time, htime, ?_, ?_⟩
    · rcases hjoint with rfl | rfl <;> rfl
    · exact shown_dateTime hjoint separator time
  | dayFirst => exact Or.inr ⟨seconds, seconds_mem, rfl, rfl⟩
  | monthFirst => exact Or.inr ⟨minutes, minutes_mem, rfl, rfl⟩

theorem nanos_div : t.nanos / 10 ^ 9 * 10 ^ 9 = 0 := by
  have := ht.nanos
  omega

/-- What a clock time says beside a date, and what of it is shown. -/
theorem exists_clock {time : Format} (htime : time ∈ clockTimes) :
    ∃ s n : Option ℕ, time.put places t (dated t) =
        { dated t with
          hour := some (t.second / 3600), minute := some (t.second / 60 % 60)
          second := s, nanos := n } ∧
      s.getD 0 < 60 ∧ time.shown places t = ⟨t.date, t.second / 60 * 60 + s.getD 0, n.getD 0⟩ := by
  have hsecond : t.second % 60 < 60 := Nat.mod_lt _ (by omega)
  have hsum : t.second / 60 * 60 + t.second % 60 = t.second := by omega
  simp only [clockTimes, List.mem_cons, List.not_mem_nil, or_false] at htime
  rcases htime with rfl | rfl | rfl
  · exact ⟨none, none, rfl, Nat.zero_lt_succ 59, rfl⟩
  · refine ⟨some (t.second % 60), none, rfl, hsecond, ?_⟩
    rw [Option.getD_some, hsum]
    rfl
  · by_cases hplaces : places = 0
    · subst hplaces
      refine ⟨some (t.second % 60), none, rfl, hsecond, ?_⟩
      change (⟨t.date, t.second, t.nanos / 10 ^ 9 * 10 ^ 9⟩ : LocalTime) = _
      rw [nanos_div ht, Option.getD_some, hsum]
      rfl
    · obtain ⟨n, hn⟩ : ∃ n, t.nanos / 10 ^ (9 - places) * 10 ^ (9 - places) = n := ⟨_, rfl⟩
      have hfraction : ∀ q, Item.put places t q .fraction = { q with nanos := some n } := by
        intro q
        rw [← hn]
        exact if_neg hplaces
      refine ⟨some (t.second % 60), some n, hfraction _, hsecond, ?_⟩
      rw [Option.getD_some, hsum, Option.getD_some, ← hn]
      rfl

theorem localTime?_clock {time : Format} (htime : time ∈ clockTimes) :
    (time.put places t (dated t)).localTime? = some (time.shown places t) := by
  obtain ⟨s, n, hput, hs, hshown⟩ := exists_clock ht htime
  rw [hput, hshown]
  unfold Parts.localTime?
  rw [Parts.date?_eq ht rfl rfl rfl rfl, Parts.time?_eq rfl rfl hs]

/-! ### Formats that read what another one prints -/

theorem numericDate_strip {separator separator' : Char} {f : Format} {rest left : List Char}
    (h : Format.Leaves (numericDate separator' ++ f)
      ((numericDate separator).print places t ++ rest) left) :
    separator' = separator ∧ f.Leaves rest left := by
  have hprint : (numericDate separator).print places t ++ rest = Item.year.print places t ++
      (separator :: (Item.month.print places t ++
        (separator :: (Item.day.print places t ++ rest)))) := by
    simp [Format.print, numericDate, Item.print]
  rw [hprint] at h
  obtain ⟨mid, hyear, h⟩ := h.cons
  cases hyear.word ht rfl
  obtain ⟨mid, hsign, h⟩ := h.cons
  obtain ⟨rfl, rfl⟩ := List.cons.inj hsign.literal
  obtain ⟨mid, hmonth, h⟩ := h.cons
  cases hmonth.word ht rfl
  obtain ⟨mid, hsign, h⟩ := h.cons
  cases hsign.literal
  obtain ⟨mid, hday, h⟩ := h.cons
  cases hday.word ht rfl
  exact ⟨rfl, h⟩

theorem minutes_strip {f : Format} {rest left : List Char}
    (h : Format.Leaves (minutes ++ f) (minutes.print places t ++ rest) left) :
    f.Leaves rest left := by
  have hprint : minutes.print places t ++ rest =
      Item.hour.print places t ++ (':' :: (Item.minute.print places t ++ rest)) := by
    simp [Format.print, minutes, Item.print]
  rw [hprint] at h
  obtain ⟨mid, hhour, h⟩ := h.cons
  cases hhour.word ht rfl
  obtain ⟨mid, hcolon, h⟩ := h.cons
  cases hcolon.literal
  obtain ⟨mid, hminute, h⟩ := h.cons
  cases hminute.word ht rfl
  exact h

theorem second_strip {f : Format} {rest left : List Char}
    (h : Format.Leaves (.literal ':' :: .second :: f)
      (':' :: (Item.second.print places t ++ rest)) left) : f.Leaves rest left := by
  obtain ⟨mid, hcolon, h⟩ := h.cons
  cases hcolon.literal
  obtain ⟨mid, hsecond, h⟩ := h.cons
  cases hsecond.word ht rfl
  exact h

omit ht in
theorem print_seconds_append (f : Format) : (seconds ++ f).print places t =
    minutes.print places t ++ (':' :: (Item.second.print places t ++ f.print places t)) := by
  simp only [Format.print, seconds, minutes, List.append_assoc, List.flatMap_append,
    List.flatMap_cons, List.flatMap_nil, List.nil_append]
  rfl

/-- Behind the seconds, a fraction and none are told apart, unless it is printed with no places. -/
theorem exists_print_of_fraction (hplaces : places ≤ 9) {f g : Format}
    (hf : f = [] ∨ f = [.fraction]) (hg : g = [] ∨ g = [.fraction])
    (h : g.Leaves (f.print places t) []) :
    ∃ places' ≤ 9, (seconds ++ g).print places' t = (seconds ++ f).print places t ∧
      (seconds ++ g).shown places' t = (seconds ++ f).shown places t := by
  have hprint : Format.print 0 t (seconds ++ [.fraction]) = seconds.print places t := by
    rw [print_seconds_append, ← List.append_nil seconds, print_seconds_append]
    rfl
  have hshown : Format.shown 0 t (seconds ++ [.fraction]) = seconds.shown places t := by
    change (⟨t.date, t.second, t.nanos / 10 ^ 9 * 10 ^ 9⟩ : LocalTime) = _
    rw [nanos_div ht]
    rfl
  rcases hf with rfl | rfl <;> rcases hg with rfl | rfl
  · exact ⟨places, hplaces, rfl, rfl⟩
  · exact ⟨0, Nat.zero_le 9, by rw [hprint, List.append_nil], by rw [hshown, List.append_nil]⟩
  · have hnone : places = 0 := by
      by_contra hne
      have hnil := h.nil
      rw [Format.print, List.flatMap_singleton, Item.print, if_neg hne] at hnil
      cases hnil
    subst hnone
    exact ⟨0, hplaces, by rw [hprint, List.append_nil], by rw [hshown, List.append_nil]⟩
  · exact ⟨places, hplaces, rfl, rfl⟩

theorem exists_print_of_clock {time time' : Format} (hplaces : places ≤ 9)
    (htime : time ∈ clockTimes) (htime' : time' ∈ clockTimes)
    (h : time'.Leaves (time.print places t) []) :
    ∃ places' ≤ 9, time'.print places' t = time.print places t ∧
      time'.shown places' t = time.shown places t := by
  have hkinds : ∀ {time : Format}, time ∈ clockTimes →
      time = minutes ∨ ∃ f, time = seconds ++ f ∧ (f = [] ∨ f = [.fraction]) := by
    intro time htime
    simp only [clockTimes, List.mem_cons, List.not_mem_nil, or_false] at htime
    rcases htime with rfl | rfl | rfl
    · exact Or.inl rfl
    · exact Or.inr ⟨[], (List.append_nil seconds).symm, Or.inl rfl⟩
    · exact Or.inr ⟨[.fraction], rfl, Or.inr rfl⟩
  rcases hkinds htime with rfl | ⟨f, rfl, hf⟩ <;> rcases hkinds htime' with rfl | ⟨g, rfl, hg⟩
  · exact ⟨places, hplaces, rfl, rfl⟩
  · -- The seconds are missing.
    rw [← List.append_nil (minutes.print places t)] at h
    obtain ⟨mid, hcolon, -⟩ := (minutes_strip (f := [.literal ':', .second] ++ g) ht h).cons
    cases hcolon.literal
  · -- The seconds are left.
    rw [print_seconds_append] at h
    cases (minutes_strip (f := []) ht h).nil
  · rw [print_seconds_append] at h
    have hsecond := minutes_strip (f := [.literal ':', .second] ++ g) ht h
    exact exists_print_of_fraction ht hplaces hf hg (second_strip ht hsecond)

/-- What is read behind a date is what was printed there. -/
theorem exists_print_of_time {joint joint' : Item} {time time' : Format} (hplaces : places ≤ 9)
    (hjoint : joint = .space ∨ joint = .literal 'T')
    (hjoint' : joint' = .space ∨ joint' = .literal 'T')
    (htime : time ∈ clockTimes) (htime' : time' ∈ clockTimes)
    (h : Format.Leaves (joint' :: time') (Format.print places t (joint :: time)) []) :
    joint' = joint ∧ ∃ places' ≤ 9, time'.print places' t = time.print places t ∧
      time'.shown places' t = time.shown places t := by
  obtain ⟨mid, hmid, h⟩ := h.cons
  rcases hjoint with rfl | rfl <;> rcases hjoint' with rfl | rfl
  · obtain ⟨f, rfl⟩ := exists_hour htime
    cases hmid.spaceWord ht rfl
    exact ⟨rfl, exists_print_of_clock ht hplaces htime htime' h⟩
  · cases hmid.literal
  · obtain ⟨f, rfl⟩ := exists_hour htime'
    cases hmid.space
    exact absurd h (not_leaves_field (i := .hour) rfl (c := 'T') (by decide))
  · cases hmid.literal
    exact ⟨rfl, exists_print_of_clock ht hplaces htime htime' h⟩

theorem digits?_numericDate (separator : Char) (rest : List Char) : ∃ behind,
    digits? 4 4 ((numericDate separator).print places t ++ rest) =
      some (t.date.year.toNat, behind) := by
  have hyear : t.date.year.toNat < 10 ^ 4 := by
    have := ht.yearShort
    omega
  exact ⟨_, by
    rw [numericDate, Format.print, List.flatMap_cons, Item.print, List.append_assoc]
    exact digits?_padded le_rfl hyear _⟩

theorem not_leaves_wordFirst {separator : Char} {rest : List Char} {g : Format}
    (hg : g = dayFirst ∨ g = monthFirst) :
    ¬g.Leaves ((numericDate separator).print places t ++ rest) [] := by
  intro h
  obtain ⟨behind, hyear⟩ := digits?_numericDate ht separator rest
  rcases hg with rfl | rfl
  · exact not_leaves_dayFirst hyear h
  · obtain ⟨c, tail, hcons, hc⟩ := exists_cons_of_digits? hyear (by omega)
    rw [hcons] at h
    exact not_leaves_month hc h

omit ht in
theorem not_leaves_time_of_nil {joint : Item} {time : Format}
    (hjoint : joint = .space ∨ joint = .literal 'T') (htime : time ∈ clockTimes) :
    ¬Format.Leaves (joint :: time) [] [] := by
  intro h
  obtain ⟨mid, hmid, h⟩ := h.cons
  rcases hjoint with rfl | rfl
  · cases hmid.space
    obtain ⟨f, rfl⟩ := exists_hour htime
    obtain ⟨mid, hhour, -⟩ := h.cons
    obtain ⟨n, hn⟩ := hhour.field rfl
    cases hn
  · cases hmid.literal

theorem eq_dayFirst_of_leaves {g : Format} (hg : NaiveFormat g)
    (h : g.Leaves (dayFirst.print places t) []) : g = dayFirst := by
  obtain ⟨behind, hprint⟩ : ∃ behind,
    dayFirst.print places t = padded 2 t.date.day ++ ' ' :: behind := ⟨_, rfl⟩
  have hday : digits? 1 2 (dayFirst.print places t) = some (t.date.day, ' ' :: behind) := by
    have := ht.day
    rw [hprint]
    exact digits?_padded (by omega) (by omega) (' ' :: behind)
  cases hg with
  | date hseparator => exact absurd h (not_leaves_date_of_blank hseparator hday rfl)
  | dateTime hseparator _ _ =>
    obtain ⟨mid, hread, -⟩ := h.append
    exact absurd hread (not_leaves_date_of_blank hseparator hday rfl)
  | dayFirst => rfl
  | monthFirst =>
    obtain ⟨c, tail, hcons, hc⟩ := exists_cons_of_digits? hday (by omega)
    rw [hcons] at h
    exact absurd h (not_leaves_month hc)

theorem eq_monthFirst_of_leaves {g : Format} (hg : NaiveFormat g)
    (h : g.Leaves (monthFirst.print places t) []) : g = monthFirst := by
  obtain ⟨c, tail, hcons, hc⟩ : ∃ c tail,
      monthFirst.print places t = c :: tail ∧ c.isAlpha = true := by
    obtain ⟨rest, hprint⟩ : ∃ rest, monthFirst.print places t =
      Item.monthAbbreviation.print places t ++ rest := ⟨_, rfl⟩
    have hleaves : Item.Leaves .monthAbbreviation
        (Item.monthAbbreviation.print places t ++ rest) rest :=
      ⟨{}, _, Item.read?_print ht rfl {} rest⟩
    obtain ⟨m, hm⟩ := hleaves.monthAbbreviation
    rw [hprint]
    exact isAlpha_of_monthAbbreviation? hm
  rw [hcons] at h
  cases hg with
  | date _ => exact absurd h (not_leaves_date_of_letter hc)
  | dateTime _ _ _ =>
    obtain ⟨mid, hread, -⟩ := h.append
    exact absurd hread (not_leaves_date_of_letter hc)
  | dayFirst => exact absurd h (not_leaves_field (i := .day) rfl hc)
  | monthFirst => rfl

/-- A text that one format printed is read by another one only if that could have printed it. -/
theorem exists_print_of_leaves {f g : Format} (hplaces : places ≤ 9) (hf : NaiveFormat f)
    (hg : NaiveFormat g) (h : g.Leaves (f.print places t) []) :
    ∃ places' ≤ 9, g.print places' t = f.print places t ∧
      g.shown places' t = f.shown places t := by
  -- Four digits, two digits or a letter in front tell the numeric formats from those with words,
  -- the separator tells numeric dates apart; only the places behind the second are left open.
  cases hf with
  | @date separator hseparator =>
    rw [← List.append_nil ((numericDate separator).print places t)] at h
    cases hg with
    | date _ =>
      obtain ⟨rfl, -⟩ := numericDate_strip (f := []) ht h
      exact ⟨places, hplaces, rfl, rfl⟩
    | dateTime _ hjoint htime =>
      exact absurd (numericDate_strip ht h).2 (not_leaves_time_of_nil hjoint htime)
    | dayFirst => exact absurd h (not_leaves_wordFirst ht (Or.inl rfl))
    | monthFirst => exact absurd h (not_leaves_wordFirst ht (Or.inr rfl))
  | @dateTime separator joint time hseparator hjoint htime =>
    have htext : Format.print places t (numericDate separator ++ joint :: time) =
        (numericDate separator).print places t ++ Format.print places t (joint :: time) :=
      List.flatMap_append
    rw [htext] at h
    cases hg with
    | date _ =>
      have hrest := (numericDate_strip (f := []) ht h).2.nil
      rcases hjoint with rfl | rfl <;> cases hrest
    | @dateTime _ joint' time' _ hjoint' htime' =>
      obtain ⟨rfl, hrest⟩ := numericDate_strip ht h
      obtain ⟨rfl, places', hplaces', hprint, hshown⟩ :=
        exists_print_of_time ht hplaces hjoint hjoint' htime htime' hrest
      refine ⟨places', hplaces', ?_, ?_⟩
      · rw [print_dateTime hjoint _ time', print_dateTime hjoint _ time, hprint]
      · rw [shown_dateTime hjoint _ time', shown_dateTime hjoint _ time, hshown]
    | dayFirst => exact absurd h (not_leaves_wordFirst ht (Or.inl rfl))
    | monthFirst => exact absurd h (not_leaves_wordFirst ht (Or.inr rfl))
  | dayFirst =>
    cases eq_dayFirst_of_leaves ht hg h
    exact ⟨places, hplaces, rfl, rfl⟩
  | monthFirst =>
    cases eq_monthFirst_of_leaves ht hg h
    exact ⟨places, hplaces, rfl, rfl⟩

theorem shown_of_parse? {f g : Format} {p : Parts} (hplaces : places ≤ 9) (hf : NaiveFormat f)
    (hg : NaiveFormat g) (h : g.parse? (f.print places t) = some p) :
    ∃ places' ≤ 9, p = g.put places' t {} ∧ g.shown places' t = f.shown places t := by
  obtain ⟨places', hplaces', hprint, hshown⟩ :=
    exists_print_of_leaves ht hplaces hf hg (Format.leaves_of_parse? h)
  refine ⟨places', hplaces', ?_, hshown⟩
  rw [← hprint, parse?_print_naive ht hplaces' hg] at h
  exact (Option.some.inj h).symm

/-! ### The formats together -/

theorem localTime?_put {f : Format} (hf : f ∈ naiveFormats) :
    (f.put places t {}).localTime? = some (f.shown places t) := by
  have hhour : ∀ f ∈ naiveFormats, Item.hour ∈ f := by decide
  rcases (naiveFormat_of_mem (List.mem_append_left _ hf)).split places t with
    ⟨separator, rfl⟩ | ⟨time, htime, hput, hshown⟩
  · have hnone : Item.hour ∉ numericDate separator := by simp [numericDate]
    exact absurd (hhour _ hf) hnone
  · rw [hput, hshown]
    exact localTime?_clock ht htime

theorem midnight?_put {f : Format} (hf : f ∈ dateFormats) :
    (f.put places t {}).midnight? = some (f.shown places t) := by
  have hdate : (dated t).midnight? = some ⟨t.date, 0, 0⟩ := by
    rw [Parts.midnight?, Parts.date?_eq ht rfl rfl rfl rfl, Option.map_some]
  simp only [dateFormats, List.mem_cons, List.not_mem_nil, or_false] at hf
  rcases hf with rfl | rfl <;> exact hdate

theorem eq_of_naive (hplaces : places ≤ 9) {f : Format} (hf : NaiveFormat f) :
    ∀ g ∈ naiveFormats, ∀ t',
      (g.parse? (f.print places t)).bind Parts.localTime? = some t' → t' = f.shown places t := by
  intro g hg t' h
  obtain ⟨p, hparse, hp⟩ := Option.bind_eq_some_iff.mp h
  obtain ⟨places', -, rfl, hshown⟩ :=
    shown_of_parse? ht hplaces hf (naiveFormat_of_mem (List.mem_append_left _ hg)) hparse
  rw [localTime?_put ht hg, hshown] at hp
  exact (Option.some.inj hp).symm

theorem eq_of_date (hplaces : places ≤ 9) {f : Format} (hf : NaiveFormat f) :
    ∀ g ∈ dateFormats, ∀ t',
      (g.parse? (f.print places t)).bind Parts.midnight? = some t' → t' = f.shown places t := by
  intro g hg t' h
  obtain ⟨p, hparse, hp⟩ := Option.bind_eq_some_iff.mp h
  obtain ⟨places', -, rfl, hshown⟩ :=
    shown_of_parse? ht hplaces hf (naiveFormat_of_mem (List.mem_append_right _ hg)) hparse
  rw [midnight?_put ht hg, hshown] at hp
  exact (Option.some.inj hp).symm

end

section

variable {α β : Type} {f : α → Option β} {b : β} {l : List α}
  (h : ∀ a ∈ l, ∀ b', f a = some b' → b' = b)

include h

theorem findSome?_eq_none_or : l.findSome? f = none ∨ l.findSome? f = some b := by
  cases hfind : l.findSome? f with
  | none => exact Or.inl rfl
  | some b' =>
    obtain ⟨a, ha, hb⟩ := List.exists_of_findSome?_eq_some hfind
    exact Or.inr (congrArg some (h a ha b' hb))

/-- Where all hits are the same, the first one is any of them. -/
theorem findSome?_eq_some {a : α} (ha : a ∈ l) (hb : f a = some b) : l.findSome? f = some b := by
  refine (findSome?_eq_none_or h).resolve_left fun hnone => ?_
  have hmiss := List.findSome?_eq_none_iff.mp hnone a ha
  rw [hb] at hmiss
  cases hmiss

end

/-- A naive time that is printed in any of the formats, with up to nine places of a fraction and
with blanks around it, is read as what the format shows of it; and no format reads anything else
there. -/
theorem naive?_print {f : Format} {t : LocalTime} {places : ℕ} {before after : List Char}
    (hf : f ∈ naiveFormats ++ dateFormats) (ht : t.Printable) (hplaces : places ≤ 9)
    (hbefore : ∀ c ∈ before, Text.isBlank c = true)
    (hafter : ∀ c ∈ after, Text.isBlank c = true) :
    naive? (String.ofList (before ++ (f.print places t ++ after))) = some (f.shown places t) ∧
      (∀ g ∈ naiveFormats, ∀ t',
        (g.parse? (f.print places t)).bind Parts.localTime? = some t' → t' = f.shown places t) ∧
      ∀ g ∈ dateFormats, ∀ t',
        (g.parse? (f.print places t)).bind Parts.midnight? = some t' → t' = f.shown places t := by
  have hnaive := naiveFormat_of_mem hf
  have htimes := eq_of_naive ht hplaces hnaive
  have hdates := eq_of_date ht hplaces hnaive
  refine ⟨?_, htimes, hdates⟩
  have htrim : Text.trim (before ++ (f.print places t ++ after)) = f.print places t := by
    obtain ⟨i, g, rfl, hi, hlegible⟩ := hnaive.exists_word
    obtain ⟨hne, htrim⟩ := Format.trim_print ht hi hlegible
    exact Text.trim_between hbefore hafter htrim hne
  have hparse := parse?_print_naive ht hplaces hnaive
  unfold naive?
  rw [String.toList_ofList]
  dsimp only
  rw [htrim]
  rcases List.mem_append.mp hf with hf | hf
  · rw [findSome?_eq_some htimes hf (by rw [hparse, Option.bind_some, localTime?_put ht hf]),
      Option.some_or]
  · have hread := findSome?_eq_some hdates hf
      (by rw [hparse, Option.bind_some, midnight?_put ht hf])
    rcases findSome?_eq_none_or htimes with hnone | hsome
    · rw [hnone, Option.none_or, hread]
    · rw [hsome, Option.some_or]

theorem naive?_print_leap_day :
    naive? "\t29 Feb 2024 07:05:09" = some ⟨⟨2024, 2, 29⟩, 25509, 0⟩ ∧
      naive? "2024-02-29T07:05:09.120 " = some ⟨⟨2024, 2, 29⟩, 25509, 120000000⟩ := by
  have ht : LocalTime.Printable ⟨⟨2024, 2, 29⟩, 25509, 120456789⟩ :=
    ⟨rfl, by decide, by decide, by decide, by decide⟩
  have hnone : ∀ c ∈ [], Text.isBlank c = true := List.forall_mem_nil _
  have htab : ∀ c ∈ ['\t'], Text.isBlank c = true := List.forall_mem_singleton.mpr rfl
  have hspace : ∀ c ∈ [' '], Text.isBlank c = true := List.forall_mem_singleton.mpr rfl
  have hdayFirst : dayFirst ∈ naiveFormats ++ dateFormats := by decide
  have hfraction : numericDate '-' ++ .literal 'T' :: (seconds ++ [.fraction]) ∈
    naiveFormats ++ dateFormats := by decide
  exact ⟨(naive?_print hdayFirst ht (Nat.zero_le 9) htab hnone).1,
    (naive?_print hfraction ht (by decide : 3 ≤ 9) hnone hspace).1⟩

end Gleaner.Moment
