import Gleaner.Calendar.Format
import Gleaner.Proofs.Text.Blank

/-!
What formats leave of a text: each item leaves the rest of it to the next (`Format.Leaves.cons`),
and a format that reads a whole text leaves nothing (`Format.leaves_of_parse?`).
-/
namespace Gleaner.Calendar

/-! ### Digits -/

theorem digits?_eq_some {least most n : Nat} {cs rest : List Char}
    (h : digits? least most cs = some (n, rest)) :
    ∃ ds, cs = ds ++ rest ∧ (∀ d ∈ ds, d.isDigit = true) ∧ least ≤ ds.length ∧
      ds.length ≤ most := by
  unfold digits? at h
  dsimp only at h
  split at h
  next => cases h
  next hleast =>
    cases Option.some.inj h
    have hprefix : (cs.take most).takeWhile Char.isDigit <+: cs :=
      (List.takeWhile_prefix _).trans (List.take_prefix most cs)
    have hmost : ((cs.take most).takeWhile Char.isDigit).length ≤ (cs.take most).length :=
      (List.takeWhile_prefix _).length_le
    refine ⟨_, (List.prefix_iff_eq_append.mp hprefix).symm, ?_, by omega, ?_⟩
    · exact fun d hd => List.mem_takeWhile_imp hd
    · exact hmost.trans (List.length_take_le most cs)

/-- Digits are read as far as they go, or as far as they may. -/
theorem digits?_append {least most : Nat} {ds rest : List Char}
    (hdigits : ∀ d ∈ ds, d.isDigit = true) (hleast : least ≤ ds.length) (hmost : ds.length ≤ most)
    (hend : ds.length = most ∨ ∀ c ∈ rest.head?, c.isDigit = false) :
    digits? least most (ds ++ rest) = some (Decimal.digitsValue ds, rest) := by
  have hnone : (rest.take (most - ds.length)).takeWhile Char.isDigit = [] := by
    rcases hend with hfull | hstop
    · simp [hfull]
    · cases rest with
      | nil => simp
      | cons c rest =>
        have hc : c.isDigit = false := hstop c rfl
        cases most - ds.length <;> simp [hc]
  have hread : ((ds ++ rest).take most).takeWhile Char.isDigit = ds := by
    rw [List.take_append, List.take_of_length_le hmost, List.takeWhile_append_of_pos hdigits, hnone,
      List.append_nil]
  unfold digits?
  dsimp only
  rw [hread, if_neg (by omega), List.drop_left]

theorem exists_cons_of_digits? {least most n : Nat} {cs rest : List Char}
    (h : digits? least most cs = some (n, rest)) (hleast : 0 < least) :
    ∃ c tail, cs = c :: tail ∧ c.isDigit = true := by
  obtain ⟨ds, rfl, hdigits, hlength, -⟩ := digits?_eq_some h
  cases ds with
  | nil => simp at hlength; omega
  | cons d ds => exact ⟨d, ds ++ rest, rfl, hdigits d List.mem_cons_self⟩

theorem digits?_eq_none {least most : Nat} {c : Char} {tail : List Char} (hc : c.isDigit = false)
    (hleast : 0 < least) : digits? least most (c :: tail) = none := by
  cases h : digits? least most (c :: tail) with
  | none => rfl
  | some r =>
    obtain ⟨d, rest, hcons, hd⟩ := exists_cons_of_digits? h hleast
    cases hcons
    rw [hc] at hd
    cases hd

theorem trimStart_of_digits? {least most n : Nat} {cs rest : List Char}
    (h : digits? least most cs = some (n, rest)) (hleast : 0 < least) :
    Text.trimStart cs = cs := by
  obtain ⟨c, tail, rfl, hc⟩ := exists_cons_of_digits? h hleast
  exact Text.trimStart_cons (Text.isBlank_of_isDigit hc) tail

/-- A number that may be shorter is read no further. -/
theorem digits?_of_le {least least' most : Nat} {cs : List Char} {r : Nat × List Char}
    (h : digits? least most cs = some r) (hle : least' ≤ least) :
    digits? least' most cs = some r := by
  obtain ⟨n, rest⟩ := r
  unfold digits? at h ⊢
  dsimp only at h ⊢
  split at h
  next => cases h
  next hlength => rw [if_neg (by omega), h]

/-! ### Names -/

theorem startsWith_of_findIdx? {words : List (List Char)} {cs : List Char} {i : Nat}
    (h : (words.findIdx? fun w => startsWith w cs) = some i) :
    ∃ w ∈ words, startsWith w cs = true := by
  have hany : (words.any fun w => startsWith w cs) = true := by
    rw [← List.findIdx?_isSome, h, Option.isSome_some]
  exact List.any_eq_true.mp hany

theorem isAlpha_of_startsWith {w cs : List Char} (hw : w.head?.any Char.isAlpha = true)
    (h : startsWith w cs = true) : ∃ c tail, cs = c :: tail ∧ c.isAlpha = true := by
  have hlower : (cs.take w.length).map Char.toLower = w := beq_iff_eq.mp h
  cases w with
  | nil => cases hw
  | cons d w =>
    cases cs with
    | nil => cases hlower
    | cons c tail =>
      refine ⟨c, tail, rfl, Text.isAlpha_of_toLower ?_⟩
      have hd : c.toLower = d := (List.cons.inj hlower).1
      rw [hd]
      exact hw

theorem isAlpha_of_monthAbbreviation? {cs : List Char} {r : Nat × List Char}
    (h : monthAbbreviation? cs = some r) : ∃ c tail, cs = c :: tail ∧ c.isAlpha = true := by
  obtain ⟨i, hi, -⟩ := Option.map_eq_some_iff.mp h
  obtain ⟨w, hw, hstart⟩ := startsWith_of_findIdx? hi
  have hletters : ∀ w ∈ monthStarts, w.head?.any Char.isAlpha = true := by decide
  exact isAlpha_of_startsWith (hletters w hw) hstart

/-! ### Items -/

/-- Whether an item that is read at the start of the first text leaves the second. -/
def Item.Leaves (i : Item) (cs left : List Char) : Prop := ∃ p q, i.read? p cs = some (q, left)

/-- The same of the items of a format, one after another. -/
def Format.Leaves (f : Format) (cs left : List Char) : Prop :=
  ∃ p q, f.read? p cs = some (q, left)

namespace Item

theorem Leaves.literal {c : Char} {cs left : List Char} (h : Leaves (.literal c) cs left) :
    cs = c :: left := by
  obtain ⟨p, q, h⟩ := h
  cases cs with
  | nil => cases h
  | cons d rest =>
    by_cases hd : c = d
    · have hread : read? (.literal c) p (d :: rest) = some (p, rest) := if_pos hd
      cases hread.symm.trans h
      rw [hd]
    · have hread : read? (.literal c) p (d :: rest) = none := if_neg hd
      cases hread.symm.trans h

theorem Leaves.space {cs left : List Char} (h : Leaves .space cs left) :
    left = Text.trimStart cs := by
  obtain ⟨p, q, h⟩ := h
  cases h
  rfl

/-- Where no sign can stand, a year has four digits at most. -/
theorem Leaves.year {c : Char} {tail left : List Char} (h : Leaves .year (c :: tail) left)
    (hc : c.isAlphanum = true) : ∃ n, digits? 1 4 (c :: tail) = some (n, left) := by
  have hkind : c.isAlpha = true ∨ c.isDigit = true := by simpa [Char.isAlphanum] using hc
  have hblank : Text.isBlank c = false :=
    hkind.elim Text.isBlank_of_isAlpha Text.isBlank_of_isDigit
  obtain ⟨p, q, h⟩ := h
  obtain ⟨⟨y, rest⟩, hy, hr⟩ := Option.map_eq_some_iff.mp h
  cases hr
  rw [year?, Text.trimStart_cons hblank] at hy
  have hread := Option.filter_eq_some_iff.mp hy |>.1
  split at hread
  next heq =>
    cases heq
    exact absurd hc (by decide)
  next heq =>
    cases heq
    exact absurd hc (by decide)
  next =>
    obtain ⟨⟨n, after⟩, hn, hafter⟩ := Option.map_eq_some_iff.mp hread
    cases hafter
    exact ⟨n, hn⟩

theorem Leaves.monthAbbreviation {cs left : List Char} (h : Leaves .monthAbbreviation cs left) :
    ∃ m, monthAbbreviation? cs = some (m, left) := by
  obtain ⟨p, q, h⟩ := h
  obtain ⟨⟨m, rest⟩, hm, hr⟩ := Option.map_eq_some_iff.mp h
  cases hr
  exact ⟨m, hm⟩

theorem Leaves.fraction {cs left : List Char} (h : Leaves .fraction cs left) :
    (∃ rest n, cs = '.' :: rest ∧ nanos? rest = some (n, left)) ∨
      (∀ rest, cs ≠ '.' :: rest) ∧ left = cs := by
  obtain ⟨p, q, h⟩ := h
  simp only [read?] at h
  split at h
  next rest =>
    obtain ⟨⟨n, after⟩, hn, hr⟩ := Option.map_eq_some_iff.mp h
    cases hr
    exact Or.inl ⟨rest, n, rfl, hn⟩
  next hpoint =>
    cases h
    exact Or.inr ⟨fun rest e => hpoint rest e, rfl⟩

end Item

theorem digits?_of_field? {low high n : Nat} {cs left : List Char}
    (h : field? low high cs = some (n, left)) :
    digits? 1 2 (Text.trimStart cs) = some (n, left) := by
  unfold field? at h
  split at h
  next read rest hread =>
    split at h
    · cases h
      exact hread
    · cases h
  next => cases h

/-- The items that are numbers of one or two digits. -/
def Item.isField : Item → Bool
  | .month | .day | .hour | .minute | .second => true
  | _ => false

theorem Item.Leaves.field {i : Item} (hi : i.isField = true) {cs left : List Char}
    (h : i.Leaves cs left) : ∃ n, digits? 1 2 (Text.trimStart cs) = some (n, left) := by
  obtain ⟨p, q, h⟩ := h
  cases i with
  | month | day | hour | minute | second =>
    obtain ⟨⟨n, rest⟩, hn, hr⟩ := Option.map_eq_some_iff.mp h
    cases hr
    exact ⟨n, digits?_of_field? hn⟩
  | _ => cases hi

/-- A number of two digits is read as a whole. -/
theorem Item.Leaves.twoDigits {i : Item} (hi : i.isField = true) {n : Nat}
    {cs left rest : List Char} (h : i.Leaves cs left) (hcs : twoDigits? cs = some (n, rest)) :
    left = rest := by
  obtain ⟨m, hm⟩ := h.field hi
  rw [trimStart_of_digits? hcs (by omega), digits?_of_le hcs (by omega)] at hm
  cases hm
  rfl

/-! ### Formats -/

namespace Format

theorem Leaves.nil {cs left : List Char} (h : Leaves [] cs left) : cs = left := by
  obtain ⟨p, q, h⟩ := h
  cases h
  rfl

theorem Leaves.cons {i : Item} {f : Format} {cs left : List Char} (h : Leaves (i :: f) cs left) :
    ∃ mid, i.Leaves cs mid ∧ f.Leaves mid left := by
  obtain ⟨p, q, h⟩ := h
  simp only [read?] at h
  split at h
  next p' mid hread => exact ⟨mid, ⟨p, p', hread⟩, ⟨p', q, h⟩⟩
  next => cases h

theorem read?_append (f g : Format) (p : Parts) (cs : List Char) :
    read? (f ++ g) p cs = (f.read? p cs).bind fun r => g.read? r.1 r.2 := by
  induction f generalizing p cs with
  | nil => rfl
  | cons i f ih =>
    simp only [List.cons_append, read?]
    split
    next p' rest _ => exact ih p' rest
    next => rfl

theorem Leaves.append {f g : Format} {cs left : List Char} (h : Leaves (f ++ g) cs left) :
    ∃ mid, f.Leaves cs mid ∧ g.Leaves mid left := by
  obtain ⟨p, q, h⟩ := h
  rw [read?_append] at h
  obtain ⟨⟨p', mid⟩, hf, hg⟩ := Option.bind_eq_some_iff.mp h
  exact ⟨mid, ⟨p, p', hf⟩, ⟨p', q, hg⟩⟩

theorem leaves_of_parse? {f : Format} {cs : List Char} {p : Parts} (h : f.parse? cs = some p) :
    f.Leaves cs [] := by
  unfold parse? at h
  split at h
  next q hread => exact ⟨{}, q, hread⟩
  next => cases h

end Format

end Gleaner.Calendar
