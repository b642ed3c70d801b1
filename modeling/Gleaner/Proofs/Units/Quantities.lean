import Gleaner.Proofs.Text.Letter
import Gleaner.Proofs.Units.Duration
import Gleaner.Proofs.Units.Scan

/-!
Texts in which quantities are written, with any of the words for their units. They are read back as
they stand (`quantities_of_writes`). Since the first quantity of a unit counts, and units are
subtracted in an order of their own, it does not matter in which order they are written.
-/
namespace Gleaner

open Calendar

namespace CalendarUnit

/-- A word for a unit, its ASCII letters in any case. -/
def IsWord (u : CalendarUnit) (word : List Char) : Prop :=
  ∃ t ∈ u.tokens, Text.SameButCase word t.toList

/-- A word in Chinese characters, or in Latin letters. -/
def InScript (word : List Char) : Prop :=
  word ≠ [] ∧ ((∀ c ∈ word, Text.isHan c = true ∧ Text.isDecimalDigit c = false) ∨
    ∀ c ∈ word, c.isAlpha = true)

theorem InScript.first {word : List Char} (h : InScript word) :
    ∀ c ∈ word.head?, Text.isDecimalDigit c = false ∧ Text.isBlank c = false := by
  intro c hc
  have hmem := List.mem_of_mem_head? hc
  rcases h.2 with hhan | hlatin
  · obtain ⟨hhan, hdigit⟩ := hhan c hmem
    refine ⟨hdigit, Bool.of_not_eq_true fun hblank => ?_⟩
    rw [(Text.not_of_isBlank hblank).2.1] at hhan
    cases hhan
  · exact ⟨(Text.not_of_isAlpha (hlatin c hmem)).1, Text.isBlank_of_isAlpha (hlatin c hmem)⟩

theorem mem_vocabulary {u : CalendarUnit} {t : String} (ht : t ∈ u.tokens) :
    (t.toList, u) ∈ vocabulary :=
  List.mem_flatMap.mpr ⟨u, by cases u <;> decide, List.mem_map_of_mem ht⟩

theorem vocabulary_scripts : ∀ w ∈ vocabulary, w.1 ≠ [] ∧
    ((w.1.all fun c => Text.isHan c && !Text.isDecimalDigit c) = true ∨
      w.1.all Char.isLower = true) := by
  decide +kernel

theorem vocabulary_lower : ∀ w ∈ vocabulary, Text.lowerFrom [] w.1 = w.1 := by decide +kernel

theorem vocabulary_lookup : ∀ w ∈ vocabulary, vocabulary.lookup w.1 = some w.2 := by decide +kernel

theorem IsWord.lower {u : CalendarUnit} {word : List Char} (h : u.IsWord word) :
    ∃ t, (t, u) ∈ vocabulary ∧ Text.lowerFrom [] word = t ∧ InScript word := by
  obtain ⟨t, ht, hsame⟩ := h
  have hmem := mem_vocabulary ht
  obtain ⟨hne, hscript⟩ := vocabulary_scripts _ hmem
  refine ⟨t.toList, hmem, ?_⟩
  rcases hscript with hhan | hlatin
  · have hhan : ∀ c ∈ t.toList, Text.isHan c = true ∧ Text.isDecimalDigit c = false := by
      simpa using hhan
    have heq : word = t.toList :=
      hsame.eq_of_wide fun c hc => Text.wide_of_isHan (hhan c hc).1
    rw [heq]
    exact ⟨vocabulary_lower _ hmem, hne, Or.inl hhan⟩
  · have hlatin : ∀ c ∈ t.toList, c.isLower = true := List.all_eq_true.mp hlatin
    have hlower : t.toList.map Char.toLower = t.toList :=
      (List.map_congr_left fun c hc => Char.toLower_eq_of_not_isUpper
        (Char.not_isUpper_of_isLower (hlatin c hc))).trans (List.map_id _)
    have heq : word.map Char.toLower = t.toList := hsame.trans hlower
    have halpha : ∀ c ∈ word, c.isAlpha = true := by
      intro c hc
      rw [← Char.isLower_toLower_eq_isAlpha]
      exact hlatin c.toLower (heq ▸ List.mem_map_of_mem hc)
    have hascii : ∀ c ∈ word, c.toNat < 128 := by
      intro c hc
      have := Text.toNat_of_isAlpha (halpha c hc)
      omega
    refine ⟨(Text.lowerFrom_of_ascii hascii []).trans heq, ?_, Or.inr halpha⟩
    rintro rfl
    exact hne heq.symm

theorem ofToken?_of_isWord {u : CalendarUnit} {word : List Char} (h : u.IsWord word) :
    ofToken? (String.ofList word) = some u := by
  obtain ⟨t, hmem, hlower, -⟩ := h.lower
  have hlookup : vocabulary.lookup t = some u := vocabulary_lookup _ hmem
  unfold ofToken? Text.lower
  dsimp only
  rw [String.toList_ofList, String.toList_ofList, hlower, hlookup]

end CalendarUnit

namespace Duration

/-! ### Texts that write quantities -/

/-- Quantities as they are written one behind the other: a number, blanks or none, and a word for
the unit. Blanks may stand anywhere between them. -/
inductive Writes : List Quantity → List Char → Prop
  | nil : Writes [] []
  | blank {qs : List Quantity} {c : Char} {cs : List Char} (hblank : Text.isBlank c = true)
      (hrest : Writes qs cs) : Writes qs (c :: cs)
  | quantity {q : Quantity} {qs : List Quantity} {blanks word cs : List Char}
      (hblanks : ∀ c ∈ blanks, Text.isBlank c = true) (hword : q.unit.IsWord word)
      (hrest : Writes qs cs) :
      Writes (q :: qs) (Nat.toDigits 10 q.count ++ (blanks ++ (word ++ cs)))

theorem isDigit_toDigits {n : ℕ} {c : Char} (hc : c ∈ Nat.toDigits 10 n) : c.isDigit = true :=
  Nat.isDigit_of_mem_toDigits (by omega) (by omega) hc

/-- No word goes on in what is written. -/
theorem Writes.head {qs : List Quantity} {cs : List Char} (h : Writes qs cs) :
    ∀ c ∈ cs.head?, Text.isHan c = false ∧ c.isAlpha = false := by
  intro c hc
  cases h with
  | nil => cases hc
  | blank hblank =>
    cases hc
    exact (Text.not_of_isBlank hblank).2
  | @quantity q qs blanks word cs =>
    have hdigit : c.isDigit = true := by
      obtain ⟨d, ds, hds⟩ :=
        List.exists_cons_of_ne_nil (Nat.toDigits_ne_nil (n := q.count) (b := 10))
      refine isDigit_toDigits (n := q.count) ?_
      rw [hds] at hc ⊢
      cases hc
      exact List.mem_cons_self
    have hbounds := Text.toNat_of_isDigit hdigit
    constructor
    · refine Bool.of_not_eq_true fun hhan => ?_
      have := Text.wide_of_isHan hhan
      omega
    · refine Bool.of_not_eq_true fun halpha => ?_
      have := Text.toNat_of_isAlpha halpha
      omega

theorem written?_quantity {digits blanks word rest : List Char}
    (hdigits : ∀ c ∈ digits, c.isDigit = true) (hne : digits ≠ [])
    (hblanks : ∀ c ∈ blanks, Text.isBlank c = true) (hword : CalendarUnit.InScript word)
    (hrest : ∀ c ∈ rest.head?, Text.isHan c = false ∧ c.isAlpha = false) :
    written? (digits ++ (blanks ++ (word ++ rest))) = some ((digits, word), rest) := by
  have hfirst : ∀ c ∈ (word ++ rest).head?,
      Text.isDecimalDigit c = false ∧ Text.isBlank c = false := by
    rw [List.head?_append_of_ne_nil _ hword.1]
    exact hword.first
  have hnumber : Scan.spanning Text.isDecimalDigit (digits ++ (blanks ++ (word ++ rest))) =
      (digits, blanks ++ (word ++ rest)) := by
    refine Scan.spanning_append (fun d hd => Text.isDecimalDigit_of_isDigit (hdigits d hd)) ?_
    intro d hd
    cases blanks with
    | nil => exact (hfirst d hd).1
    | cons b blanks =>
      cases hd
      exact (Text.not_of_isBlank (hblanks d List.mem_cons_self)).1
  have hgap : (blanks ++ (word ++ rest)).dropWhile Text.isBlank = word ++ rest :=
    Scan.dropWhile_append hblanks fun c hc => (hfirst c hc).2
  unfold written?
  rw [hnumber]
  dsimp only
  rw [if_neg (by simpa using hne), hgap]
  rcases hword.2 with hhan | hlatin
  · rw [Scan.spanning_append (fun c hc => (hhan c hc).1) fun c hc => (hrest c hc).1]
    exact if_pos (by simpa using hword.1)
  · obtain ⟨c, cs, rfl⟩ := List.exists_cons_of_ne_nil hword.1
    have hnone := Scan.spanning_cons_of_neg
      (Text.not_of_isAlpha (hlatin c List.mem_cons_self)).2 (cs ++ rest)
    rw [← List.cons_append] at hnone
    have hletters : Scan.spanning isLatin (c :: cs ++ rest) = (c :: cs, rest) :=
      Scan.spanning_append hlatin fun c hc => (hrest c hc).2
    rw [hnone]
    dsimp only
    rw [if_neg (by simp), hletters]
    rfl

theorem written?_blank {c : Char} (h : Text.isBlank c = true) (cs : List Char) :
    written? (c :: cs) = none := by
  unfold written?
  rw [Scan.spanning_cons_of_neg (Text.not_of_isBlank h).1]
  rfl

theorem quantity?_toDigits {q : Quantity} {word : List Char} (hword : q.unit.IsWord word) :
    quantity? (Nat.toDigits 10 q.count, word) = if q.count < 2 ^ 32 then some q else none := by
  have hsize : UInt32.size = 2 ^ 32 := rfl
  unfold quantity?
  dsimp only
  rw [CalendarUnit.ofToken?_of_isWord hword, Decimal.natural?_toDigits, ← hsize]
  by_cases hcount : q.count < UInt32.size
  · rw [if_pos hcount, if_pos hcount]
  · rw [if_neg hcount, if_neg hcount]

theorem allWritten_of_writes {qs : List Quantity} {cs : List Char} (h : Writes qs cs) {fuel : ℕ}
    (hfuel : cs.length < fuel) :
    (allWritten fuel cs).filterMap quantity? = qs.filter fun q => q.count < 2 ^ 32 := by
  induction h generalizing fuel with
  | nil =>
    obtain ⟨fuel, rfl⟩ := Nat.exists_eq_succ_of_ne_zero (by omega : fuel ≠ 0)
    rfl
  | @blank qs c cs hblank hrest ih =>
    obtain ⟨fuel, rfl⟩ := Nat.exists_eq_succ_of_ne_zero (by omega : fuel ≠ 0)
    rw [List.length_cons] at hfuel
    rw [allWritten, written?_blank hblank]
    exact ih (by omega)
  | @quantity q qs blanks word cs hblanks hword hrest ih =>
    obtain ⟨fuel, rfl⟩ := Nat.exists_eq_succ_of_ne_zero (by omega : fuel ≠ 0)
    obtain ⟨t, -, -, hscript⟩ := hword.lower
    have hread := written?_quantity (fun c hc => isDigit_toDigits (n := q.count) hc)
      Nat.toDigits_ne_nil hblanks hscript hrest.head
    rw [allWritten.eq_def]
    dsimp only
    rw [hread]
    dsimp only
    have hshorter : cs.length < fuel := by
      have hdigit : 0 < (Nat.toDigits 10 q.count).length :=
        List.length_pos_iff.mpr Nat.toDigits_ne_nil
      simp only [List.length_append] at hfuel
      omega
    rw [List.filterMap_cons, quantity?_toDigits hword, List.filter_cons, ih hshorter]
    by_cases hcount : q.count < 2 ^ 32
    · rw [if_pos hcount, if_pos (decide_eq_true hcount)]
    · rw [if_neg hcount, if_neg (by simpa using hcount)]

theorem quantities_of_writes {qs : List Quantity} {text : String}
    (h : Writes qs text.toList) : quantities text = qs.filter fun q => q.count < 2 ^ 32 :=
  allWritten_of_writes h (Nat.lt_succ_self _)

/-! ### The order of quantities -/

theorem firstOf_eq_some_iff {qs : List Quantity} (hunits : (qs.map Quantity.unit).Nodup)
    {u : CalendarUnit} {n : ℕ} : firstOf u qs = some n ↔ ⟨n, u⟩ ∈ qs := by
  unfold firstOf
  rw [Option.map_eq_some_iff]
  constructor
  · rintro ⟨q, hq, rfl⟩
    have hunit : q.unit = u := by simpa using List.find?_some hq
    have hmem := List.mem_of_find?_eq_some hq
    rwa [← hunit]
  · intro hmem
    cases hfound : qs.find? fun q => q.unit = u with
    | none => simpa using List.find?_eq_none.mp hfound _ hmem
    | some q =>
      have hunit : q.unit = u := by simpa using List.find?_some hfound
      have heq := List.inj_on_of_nodup_map hunits (List.mem_of_find?_eq_some hfound) hmem hunit
      exact ⟨q, rfl, by rw [heq]⟩

theorem firstOf_append (u : CalendarUnit) (qs qs' : List Quantity) :
    firstOf u (qs ++ qs') = (firstOf u qs).or (firstOf u qs') := by
  unfold firstOf
  rw [List.find?_append]
  cases qs.find? fun q => q.unit = u <;> rfl

theorem firstOf_eq_none_iff {u : CalendarUnit} {qs : List Quantity} :
    firstOf u qs = none ↔ u ∉ qs.map Quantity.unit := by
  unfold firstOf
  rw [Option.map_eq_none_iff, List.find?_eq_none]
  simp

/-- Quantities of different units count alike in any order, and whatever other quantities of the
same units come behind them. -/
theorem firstOf_perm_append {qs qs' extra : List Quantity} (hunits : (qs.map Quantity.unit).Nodup)
    (hperm : qs'.Perm qs) (hextra : ∀ q ∈ extra, q.unit ∈ qs.map Quantity.unit)
    (u : CalendarUnit) : firstOf u (qs' ++ extra) = firstOf u qs := by
  have hunits' : (qs'.map Quantity.unit).Nodup := (hperm.map Quantity.unit).nodup_iff.mpr hunits
  have hsame : firstOf u qs' = firstOf u qs := by
    ext n
    rw [firstOf_eq_some_iff hunits', firstOf_eq_some_iff hunits, hperm.mem_iff]
  rw [firstOf_append, hsame]
  cases hfirst : firstOf u qs with
  | some n => rfl
  | none =>
    rw [Option.none_or, firstOf_eq_none_iff]
    intro hmem
    obtain ⟨q, hq, rfl⟩ := List.mem_map.mp hmem
    exact firstOf_eq_none_iff.mp hfirst (hextra q hq)

/-! ### Units of fixed length -/

/-- The seconds that a unit goes back by. -/
def amount (qs : List Quantity) (u : CalendarUnit) : ℕ := (firstOf u qs).elim 0 (· * u.seconds)

/-- The seconds of all quantities. -/
def total (qs : List Quantity) : ℕ := (qs.map fun q => q.count * q.unit.seconds).sum

theorem amount_cons {q : Quantity} {qs : List Quantity} (hq : q.unit ∉ qs.map Quantity.unit)
    (u : CalendarUnit) : amount (q :: qs) u =
      (if q.unit = u then q.count * q.unit.seconds else 0) + amount qs u := by
  have hfirst := firstOf_append u [q] qs
  rw [List.singleton_append] at hfirst
  unfold amount
  rw [hfirst]
  by_cases hu : q.unit = u
  · subst hu
    rw [firstOf_eq_none_iff.mpr hq, if_pos rfl]
    simp [firstOf]
  · rw [if_neg hu, zero_add]
    simp [firstOf, hu]

theorem sum_amount {qs : List Quantity} (hunits : (qs.map Quantity.unit).Nodup) :
    (CalendarUnit.all.map (amount qs)).sum = total qs := by
  induction qs with
  | nil => rfl
  | cons q qs ih =>
    obtain ⟨hq, hunits⟩ := List.nodup_cons.mp hunits
    have hone : ∀ n : ℕ, (CalendarUnit.all.map fun u => if q.unit = u then n else 0).sum = n := by
      intro n
      cases q.unit <;> simp [CalendarUnit.all]
    rw [funext (amount_cons hq), List.sum_map_add, hone, ih hunits, total, total, List.map_cons,
      List.sum_cons]

theorem secondsBack?_eq {i : Instant} {n : ℕ} (hnanos : i.nanos < 1000000000)
    (hlast : i.second ≤ lastSecond) (hfirst : firstSecond ≤ i.second - n) :
    i.secondsBack? n = some ⟨i.second - n, i.nanos⟩ := by
  have hinserted : ¬(0 < n ∧ 1000000000 ≤ i.nanos) := by omega
  have hrange : firstSecond ≤ i.second + -(n : ℤ) ∧ i.second + -(n : ℤ) ≤ lastSecond := by omega
  rw [Instant.secondsBack?, if_neg hinserted, addSeconds?, if_pos hrange, Option.map_some,
    Int.sub_eq_add_neg]

theorem step?_fixed {qs : List Quantity} (hcounts : ∀ q ∈ qs, q.count < 2 ^ 32)
    (hfixed : ∀ q ∈ qs, q.unit.months = none) {i : Instant} (hnanos : i.nanos < 1000000000)
    (hlast : i.second ≤ lastSecond) {u : CalendarUnit}
    (hfirst : firstSecond ≤ i.second - amount qs u) :
    step? qs i u = some ⟨i.second - amount qs u, i.nanos⟩ := by
  unfold step? amount at *
  cases hn : firstOf u qs with
  | none => simp
  | some n =>
    obtain ⟨q, hq, rfl⟩ := Option.map_eq_some_iff.mp hn
    have hmem := List.mem_of_find?_eq_some hq
    have hunit : q.unit = u := by simpa using List.find?_some hq
    obtain ⟨s, hs, -⟩ := u.exists_stretch? (hcounts q hmem)
    have hseconds : s = .seconds (q.count * u.seconds) := by
      rw [CalendarUnit.stretch?, ← hunit, hfixed q hmem] at hs
      dsimp only at hs
      split at hs
      next => rw [← Option.some.inj hs, hunit]
      next => cases hs
    rw [hn, Option.elim_some] at hfirst
    have hback := secondsBack?_eq hnanos hlast hfirst
    dsimp only
    rw [hs, Option.map_some, hseconds, CalendarUnit.Stretch.back?, hback, Option.getD_some]
    rfl

theorem along?_fixed {qs : List Quantity} (hcounts : ∀ q ∈ qs, q.count < 2 ^ 32)
    (hfixed : ∀ q ∈ qs, q.unit.months = none) (units : List CalendarUnit) {now : Instant}
    (hnanos : now.nanos < 1000000000) (hlast : now.second ≤ lastSecond)
    (hfirst : firstSecond ≤ now.second - (units.map (amount qs)).sum) :
    along? qs now units = some ⟨now.second - (units.map (amount qs)).sum, now.nanos⟩ := by
  induction units generalizing now with
  | nil => simp [along?]
  | cons u units ih =>
    rw [List.map_cons, List.sum_cons, Nat.cast_add] at hfirst ⊢
    rw [along?_cons, step?_fixed hcounts hfixed hnanos hlast (by omega), Option.bind_some,
      ← Int.sub_sub]
    exact ih hnanos (by dsimp only; omega) (by dsimp only; omega)

theorem back?_fixed {qs : List Quantity} (hcounts : ∀ q ∈ qs, q.count < 2 ^ 32)
    (hunits : (qs.map Quantity.unit).Nodup) (hfixed : ∀ q ∈ qs, q.unit.months = none)
    {now : Instant} (hnanos : now.nanos < 1000000000) (hlast : now.second ≤ lastSecond)
    (hfirst : firstSecond ≤ now.second - total qs) :
    back? qs now = some ⟨now.second - total qs, now.nanos⟩ := by
  rw [← sum_amount hunits] at hfirst ⊢
  rw [back?_eq_along?]
  exact along?_fixed hcounts hfixed CalendarUnit.all hnanos hlast hfirst

/-- Quantities of different units lead to the same instant in whatever order and words they are
written, also with more quantities of the same units behind them. Where all units have a fixed
length and the calendar goes back far enough, it lies their sum before the present one. -/
theorem rewind?_of_writes {qs qs' extra : List Quantity} {text : String}
    (hcounts : ∀ q ∈ qs, q.count < 2 ^ 32) (hunits : (qs.map Quantity.unit).Nodup)
    (hperm : qs'.Perm qs) (hextra : ∀ q ∈ extra, q.unit ∈ qs.map Quantity.unit)
    (htext : Writes (qs' ++ extra) text.toList) (now : Instant) :
    (∃ i, back? qs now = some i ∧ rewind? text now = some i) ∧
    (now.nanos < 1000000000 → now.second ≤ lastSecond →
      (∀ q ∈ qs, q.unit ∈ [.week, .day, .hour, .minute, .second]) →
      firstSecond ≤ now.second - total qs →
      rewind? text now = some ⟨now.second - total qs, now.nanos⟩) := by
  have hread : quantities text = qs' ++ extra.filter fun q => q.count < 2 ^ 32 := by
    rw [quantities_of_writes htext, List.filter_append, List.filter_eq_self.mpr]
    exact fun q hq => decide_eq_true (hcounts q (hperm.subset hq))
  have hsame : rewind? text now = back? qs now := by
    rw [rewind?, hread, back?_eq_along?, back?_eq_along?]
    exact along?_congr (fun u _ => firstOf_perm_append hunits hperm
      (fun q hq => hextra q (List.mem_of_mem_filter hq)) u) now
  obtain ⟨i, hi⟩ := exists_along? hcounts now CalendarUnit.all
  rw [← back?_eq_along?] at hi
  refine ⟨⟨i, hi, hsame.trans hi⟩, fun hnanos hlast hshort hfirst => ?_⟩
  have hfixed : ∀ q ∈ qs, q.unit.months = none := fun q hq => by
    have hmem := hshort q hq
    revert hmem
    cases q.unit <;> decide
  rw [hsame, back?_fixed hcounts hunits hfixed hnanos hlast hfirst]

theorem rewind?_mixed_words :
    Writes ([⟨2, .hour⟩, ⟨3, .day⟩] ++ [⟨5, .day⟩]) "2小时 3 DAYS 5d".toList ∧
      rewind? "2小时 3 DAYS 5d" ⟨1000000, 0⟩ = some ⟨733600, 0⟩ := by
  have hspace : ∀ c ∈ [' '], Text.isBlank c = true := List.forall_mem_singleton.mpr rfl
  have hnone : ∀ c ∈ [], Text.isBlank c = true := List.forall_mem_nil _
  have htext : Writes ([⟨2, .hour⟩, ⟨3, .day⟩] ++ [⟨5, .day⟩]) "2小时 3 DAYS 5d".toList := by
    have h5 := @Writes.quantity ⟨5, .day⟩ [] [] ['d'] [] hnone ⟨"d", by decide, by decide⟩ .nil
    have h3 := @Writes.quantity ⟨3, .day⟩ _ [' '] ['D', 'A', 'Y', 'S'] _ hspace
      ⟨"days", by decide, by decide⟩ (Writes.blank (c := ' ') rfl h5)
    exact @Writes.quantity ⟨2, .hour⟩ _ [] ['小', '时'] _ hnone ⟨"小时", by decide, by decide⟩
      (Writes.blank (c := ' ') rfl h3)
  have hcounts : ∀ q ∈ [(⟨3, .day⟩ : Quantity), ⟨2, .hour⟩], q.count < 2 ^ 32 := by decide
  have htotal : total [⟨3, .day⟩, ⟨2, .hour⟩] = 266400 := by decide
  have hsum := (rewind?_of_writes hcounts (by decide) (List.Perm.swap _ _ _) (by decide) htext
    ⟨1000000, 0⟩).2
  rw [htotal] at hsum
  exact ⟨htext, hsum (by decide) (by decide) (by decide) (by decide)⟩

end Duration

end Gleaner
