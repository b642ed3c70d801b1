import Gleaner.Proofs.Text.Blank
import Gleaner.Text.Case
import Gleaner.Text.Infix

/-!
Parts of texts, whatever the case of their ASCII letters. A word that stands in a text still does
when other characters are dropped at the ends (`mentions_dropWhile`). And places in a text counted
in bytes: lowering a text moves none of them (`utf8Size_toLower`).
-/
namespace Gleaner.Text

/-- Texts that differ at most in the case of ASCII letters. -/
def SameButCase (a b : List Char) : Prop := a.map Char.toLower = b.map Char.toLower

instance (a b : List Char) : Decidable (SameButCase a b) :=
  inferInstanceAs (Decidable (a.map Char.toLower = b.map Char.toLower))

/-- A part stands somewhere in a text, in whatever case. -/
def Mentions (part text : List Char) : Prop :=
  ∃ before found after, text = before ++ found ++ after ∧ SameButCase found part

theorem mentions_iff {part text : List Char} :
    Mentions part text ↔ part.map Char.toLower <:+: text.map Char.toLower := by
  constructor
  · rintro ⟨before, found, after, rfl, hfound⟩
    rw [← hfound]
    exact (List.infix_append before found after).map Char.toLower
  · rintro ⟨before, after, happend⟩
    obtain ⟨front, after, rfl, hfront, -⟩ := List.map_eq_append_iff.mp happend.symm
    obtain ⟨before, found, rfl, -, hfound⟩ := List.map_eq_append_iff.mp hfront
    exact ⟨before, found, after, rfl, hfound⟩

theorem Mentions.of_infix {part text text' : List Char} (h : Mentions part text)
    (hwithin : text <:+: text') : Mentions part text' :=
  mentions_iff.mpr ((mentions_iff.mp h).trans (hwithin.map Char.toLower))

theorem mentions_reverse {part text : List Char} :
    Mentions part.reverse text.reverse ↔ Mentions part text := by
  rw [mentions_iff, mentions_iff, List.map_reverse, List.map_reverse,
    List.reverse_infix]

theorem SameButCase.length_eq {a b : List Char} (h : SameButCase a b) : a.length = b.length := by
  simpa using congrArg List.length h

theorem asciiLower_eq_iff {a b : String} :
    asciiLower a = asciiLower b ↔ SameButCase a.toList b.toList := by
  rw [asciiLower, asciiLower, String.ofList_inj, SameButCase]

/-- Looking for a lower-case part at the start of a lowered text. -/
theorem isPrefixOf_lower_iff {part cs : List Char} (hpart : part.map Char.toLower = part) :
    part.isPrefixOf (cs.map Char.toLower) = true ↔
      ∃ found rest, cs = found ++ rest ∧ SameButCase found part := by
  rw [List.isPrefixOf_iff_prefix]
  constructor
  · rintro ⟨after, happend⟩
    obtain ⟨found, rest, rfl, hfound, -⟩ := List.map_eq_append_iff.mp happend.symm
    exact ⟨found, rest, rfl, hfound.trans hpart.symm⟩
  · rintro ⟨found, rest, rfl, hfound⟩
    rw [List.map_append, hfound, hpart]
    exact List.prefix_append part _

/-- What is made of letters, and is not empty. -/
def IsWord (part : List Char) : Prop := part ≠ [] ∧ part.all (fun c => c.toLower.isAlpha) = true

theorem IsWord.reverse {part : List Char} (h : IsWord part) : IsWord part.reverse :=
  ⟨by simpa using h.1, List.all_reverse.trans h.2⟩

/-- A text that is a word but for its case starts with a letter. -/
theorem IsWord.exists_cons {part found : List Char} (h : IsWord part)
    (hfound : SameButCase found part) :
    ∃ c rest, found = c :: rest ∧ c.isAlpha = true := by
  obtain ⟨hne, hletters⟩ := h
  cases part with
  | nil => exact absurd rfl hne
  | cons d part =>
    cases found with
    | nil => simp [SameButCase] at hfound
    | cons c found =>
      have hcase : c.toLower = d.toLower := (List.cons.inj hfound).1
      have hletter := List.all_eq_true.mp hletters d List.mem_cons_self
      rw [← hcase] at hletter
      exact ⟨c, found, rfl, isAlpha_of_toLower hletter⟩

/-- Dropping what are no letters from the start of a text takes no word from it. -/
theorem mentions_dropWhile {p : Char → Bool} (hp : ∀ c, c.isAlpha = true → p c = false)
    {part : List Char} (hpart : IsWord part) (text : List Char) :
    Mentions part (text.dropWhile p) ↔ Mentions part text := by
  constructor
  · intro h
    exact h.of_infix (List.dropWhile_suffix p).isInfix
  · rintro ⟨before, found, after, rfl, hfound⟩
    obtain ⟨c, rest, rfl, hletter⟩ := hpart.exists_cons hfound
    have hstays : ((c :: rest) ++ after).dropWhile p = (c :: rest) ++ after :=
      List.dropWhile_cons_of_neg (by simp [hp c hletter])
    rw [List.append_assoc, List.dropWhile_append]
    split
    next => exact ⟨[], c :: rest, after, hstays, hfound⟩
    next => exact ⟨before.dropWhile p, c :: rest, after, by simp, hfound⟩

theorem mentions_dropWhile_end {p : Char → Bool} (hp : ∀ c, c.isAlpha = true → p c = false)
    {part : List Char} (hpart : IsWord part) (text : List Char) :
    Mentions part (text.reverse.dropWhile p).reverse ↔ Mentions part text := by
  rw [← mentions_reverse, List.reverse_reverse, mentions_dropWhile hp hpart.reverse,
    mentions_reverse]

theorem mentions_trim {part : List Char} (hpart : IsWord part) (text : List Char) :
    Mentions part (trim text) ↔ Mentions part text := by
  have hp : ∀ c : Char, c.isAlpha = true → isBlank c = false := fun c => isBlank_of_isAlpha
  exact (mentions_dropWhile_end hp hpart _).trans (mentions_dropWhile hp hpart text)

/-! ### Places counted in bytes -/

/-- How many bytes stand in front of the first place of a part. -/
def byteOffset? (part : List Char) : List Char → Option Nat
  | [] => if part.isEmpty then some 0 else none
  | c :: cs =>
    if part.isPrefixOf (c :: cs) then some 0 else (byteOffset? part cs).map (· + c.utf8Size)

/-- What stands behind some bytes; nothing when they end inside a character or past the text. -/
def afterBytes? : Nat → List Char → Option (List Char)
  | 0, cs => some cs
  | _ + 1, [] => none
  | n + 1, c :: cs => if c.utf8Size ≤ n + 1 then afterBytes? (n + 1 - c.utf8Size) cs else none

theorem utf8Size_toLower (c : Char) : c.toLower.utf8Size = c.utf8Size := by
  unfold Char.toLower
  split
  next h =>
    have hupper : c.val.toNat ≤ 90 := h.2
    have himage : (c.val + 32).toNat ≤ 127 := by
      rw [UInt32.toNat_add]
      exact (Nat.mod_le _ _).trans (by change c.val.toNat + 32 ≤ 127; omega)
    have hsource : c.val ≤ 127 := UInt32.le_iff_toNat_le.mpr (hupper.trans (by decide))
    exact (Char.utf8Size_eq_one_iff.mpr himage).trans (Char.utf8Size_eq_one_iff.mpr hsource).symm
  next => rfl

theorem SameButCase.utf8Size_eq_one {a b : List Char} (h : SameButCase a b)
    (hb : ∀ c ∈ b, c.utf8Size = 1) : ∀ c ∈ a, c.utf8Size = 1 := by
  intro c hc
  have hlower : c.toLower ∈ b.map Char.toLower := h ▸ List.mem_map_of_mem hc
  obtain ⟨d, hd, heq⟩ := List.mem_map.mp hlower
  calc c.utf8Size
      = c.toLower.utf8Size := (utf8Size_toLower c).symm
    _ = d.utf8Size := by rw [← heq, utf8Size_toLower]
    _ = 1 := hb d hd

theorem afterBytes?_add (n : Nat) (c : Char) (cs : List Char) :
    afterBytes? (n + c.utf8Size) (c :: cs) = afterBytes? n cs := by
  have hpos := c.utf8Size_pos
  obtain ⟨m, hm⟩ : ∃ m, n + c.utf8Size = m + 1 := ⟨n + c.utf8Size - 1, by omega⟩
  have hrest : m + 1 - c.utf8Size = n := by omega
  rw [hm, afterBytes?, if_pos (by omega), hrest]

theorem afterBytes?_append {front : List Char} (h : ∀ c ∈ front, c.utf8Size = 1)
    (rest : List Char) : afterBytes? front.length (front ++ rest) = some rest := by
  induction front with
  | nil => simp [afterBytes?]
  | cons c front ih =>
    have hstep := afterBytes?_add front.length c (front ++ rest)
    rw [h c List.mem_cons_self] at hstep
    exact hstep.trans (ih fun d hd => h d (List.mem_cons_of_mem c hd))

end Gleaner.Text
