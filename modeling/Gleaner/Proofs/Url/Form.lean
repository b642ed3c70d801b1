import Gleaner.Proofs.Charset.Utf8
import Gleaner.Url.Basic

/-!
Query pairs in form encoding, read back. An encoded text has no separator in it and decodes to what
it was (`formDecode_formEncode`); a query is read piece by piece, so that pairs which are appended
to one come after those that it had (`queryPairs_addPairs`).
-/
namespace Gleaner

namespace Text

variable {c : Char}

theorem splitAtChar_ne_nil (c : Char) (cs : List Char) : splitAtChar c cs ≠ [] := by
  cases cs with
  | nil => simp [splitAtChar]
  | cons d ds =>
    unfold splitAtChar
    split
    · simp
    · split <;> simp

theorem splitAtChar_of_not_mem {cs : List Char} (h : c ∉ cs) : splitAtChar c cs = [cs] := by
  induction cs with
  | nil => rfl
  | cons d ds ih =>
    obtain ⟨hd, hds⟩ := List.ne_and_not_mem_of_not_mem_cons h
    rw [splitAtChar, if_neg (Ne.symm hd), ih hds]

theorem splitAtChar_append (xs ys : List Char) :
    splitAtChar c (xs ++ c :: ys) = splitAtChar c xs ++ splitAtChar c ys := by
  induction xs with
  | nil => simp [splitAtChar]
  | cons d ds ih =>
    rw [List.cons_append, splitAtChar, splitAtChar, ih]
    split
    · rfl
    · cases hds : splitAtChar c ds with
      | nil => exact absurd hds (splitAtChar_ne_nil c ds)
      | cons run runs => rfl

end Text

namespace Url

/-! ### Bytes -/

/-- A blank in a form is written as a plus sign. -/
def unplus (c : Char) : Char := if c = '+' then ' ' else c

theorem percentDecode_cons {c : Char} (h : c ≠ '%') (rest : List Char) :
    percentDecode (c :: rest) = Utf8.encodeChar c ++ percentDecode rest :=
  percentDecode.eq_2 c rest fun _ _ _ hc _ => h hc

theorem hexValue?_upperHexDigit {n : Nat} (h : n < 16) :
    Text.hexValue? (upperHexDigit n) = some n := by
  revert n
  decide

theorem percentDecode_percentByte {b : Nat} (h : b < 256) (rest : List Char) :
    percentDecode (percentByte b ++ rest) = b :: percentDecode rest := by
  have hhigh := hexValue?_upperHexDigit (n := b / 16) (by omega)
  have hlow := hexValue?_upperHexDigit (n := b % 16) (by omega)
  have hb : 16 * (b / 16) + b % 16 = b := by omega
  change percentDecode ('%' :: upperHexDigit (b / 16) :: upperHexDigit (b % 16) :: rest) = _
  rw [percentDecode, hhigh, hlow]
  dsimp only
  rw [hb]

theorem map_unplus_percentByte {b : Nat} (h : b < 256) :
    (percentByte b).map unplus = percentByte b := by
  have hdigit : ∀ n, n < 16 → unplus (upperHexDigit n) = upperHexDigit n := by decide
  simp only [percentByte, List.map_cons, List.map_nil, hdigit (b / 16) (by omega),
    hdigit (b % 16) (by omega)]
  rfl

/-- What stands for itself in a form is in ASCII, and no sign with a meaning there. -/
theorem isFormSafe_cases {b : Nat} (h : isFormSafe b = true) :
    b < 0x80 ∧ b ≠ 0x25 ∧ b ≠ 0x26 ∧ b ≠ 0x2b ∧ b ≠ 0x3d := by
  simp [isFormSafe] at h
  omega

theorem ofNat_ne {b : Nat} {c : Char} (h : b < 0x80) (hne : b ≠ c.toNat) : Char.ofNat b ≠ c := by
  rintro rfl
  exact hne (Utf8.toNat_ofNat h).symm

theorem percentDecode_formByte {b : Nat} (h : b < 256) (rest : List Char) :
    percentDecode ((formByte b).map unplus ++ rest) = b :: percentDecode rest := by
  unfold formByte
  split
  next hsafe =>
    -- The byte is the UTF-8 of what stands for it, being in ASCII.
    obtain ⟨hascii, hpercent, _, hplus, _⟩ := isFormSafe_cases hsafe
    have hc : unplus (Char.ofNat b) = Char.ofNat b := if_neg (ofNat_ne (c := '+') hascii hplus)
    rw [List.map_singleton, hc, List.singleton_append,
      percentDecode_cons (ofNat_ne hascii hpercent),
      Utf8.encodeChar_of_ascii (by rw [Utf8.toNat_ofNat hascii]; exact hascii),
      Utf8.toNat_ofNat hascii]
    rfl
  next =>
    split
    next hspace =>
      subst hspace
      exact percentDecode_cons (by decide) rest
    next => rw [map_unplus_percentByte h, percentDecode_percentByte h]

theorem percentDecode_formBytes {bs : List Nat} (h : ∀ b ∈ bs, b < 256) :
    percentDecode ((bs.flatMap formByte).map unplus) = bs := by
  induction bs with
  | nil => rfl
  | cons b bs ih =>
    rw [List.flatMap_cons, List.map_append, percentDecode_formByte (h b List.mem_cons_self),
      ih fun b' hb' => h b' (List.mem_cons_of_mem b hb')]

/-- Form encoding loses nothing of a text. -/
theorem formDecode_formEncode (cs : List Char) : formDecode (formEncode cs) = cs := by
  have hbytes : percentDecode ((formEncode cs).map unplus) = Utf8.encode cs :=
    percentDecode_formBytes fun _ hb => Utf8.lt_of_mem_encode hb
  change Utf8.decode (percentDecode ((formEncode cs).map unplus)) = cs
  rw [hbytes, Utf8.decode_encode]

/-! ### Pairs -/

theorem upperHexDigit_ne {n : Nat} (h : n < 16) :
    upperHexDigit n ≠ '&' ∧ upperHexDigit n ≠ '=' := by
  revert n
  decide

theorem ne_of_mem_formByte {b : Nat} (h : b < 256) {c : Char} (hc : c ∈ formByte b) :
    c ≠ '&' ∧ c ≠ '=' := by
  unfold formByte at hc
  split at hc
  next hsafe =>
    obtain ⟨hascii, _, hamp, _, heq⟩ := isFormSafe_cases hsafe
    cases List.mem_singleton.mp hc
    exact ⟨ofNat_ne hascii hamp, ofNat_ne hascii heq⟩
  next =>
    split at hc
    next =>
      cases List.mem_singleton.mp hc
      exact ⟨by decide, by decide⟩
    next =>
      simp only [percentByte, List.mem_cons, List.not_mem_nil, or_false] at hc
      rcases hc with rfl | rfl | rfl
      · exact ⟨by decide, by decide⟩
      · exact upperHexDigit_ne (by omega)
      · exact upperHexDigit_ne (by omega)

/-- No encoded text has a separator in it. -/
theorem ne_of_mem_formEncode {cs : List Char} {c : Char} (hc : c ∈ formEncode cs) :
    c ≠ '&' ∧ c ≠ '=' := by
  obtain ⟨b, hb, hc⟩ := List.mem_flatMap.mp hc
  exact ne_of_mem_formByte (Utf8.lt_of_mem_encode hb) hc

theorem pairOf_formPair (p : String × String) : pairOf (formPair p) = p := by
  have hkey : ∀ c ∈ formEncode p.1.toList, decide (c ≠ '=') = true := fun c hc =>
    decide_eq_true (ne_of_mem_formEncode hc).2
  unfold pairOf formPair
  rw [List.takeWhile_append_of_pos hkey, List.dropWhile_append_of_pos hkey,
    List.takeWhile_cons_of_neg (by decide), List.dropWhile_cons_of_neg (by decide),
    List.append_nil, List.drop_one, List.tail_cons, formDecode_formEncode, formDecode_formEncode,
    String.ofList_toList, String.ofList_toList]

theorem not_mem_formPair (p : String × String) : '&' ∉ formPair p := by
  intro h
  rcases List.mem_append.mp h with h | h
  · exact (ne_of_mem_formEncode h).1 rfl
  · rcases List.mem_cons.mp h with h | h
    · cases h
    · exact (ne_of_mem_formEncode h).1 rfl

theorem formPairs_nil : formPairs [] = [] := rfl

/-- The pieces of a query are read one by one. -/
theorem formPairs_append (query more : List Char) :
    formPairs (query ++ '&' :: more) = formPairs query ++ formPairs more := by
  unfold formPairs
  rw [Text.splitAtChar_append, List.filter_append, List.map_append]

theorem formPairs_formPair (p : String × String) : formPairs (formPair p) = [p] := by
  have hfilled : formPair p ≠ [] := by simp [formPair]
  unfold formPairs
  rw [Text.splitAtChar_of_not_mem (not_mem_formPair p),
    List.filter_cons_of_pos (by simpa using hfilled), List.filter_nil, List.map_singleton,
    pairOf_formPair]

theorem formPairs_formText (pairs : List (String × String)) :
    formPairs (formText pairs) = pairs := by
  induction pairs using formText.induct with
  | case1 => exact formPairs_nil
  | case2 p => exact formPairs_formPair p
  | case3 p q pairs ih =>
    rw [formText, formPairs_append, formPairs_formPair, ih]
    rfl

/-- Keys and values may be empty. A piece without anything in it is no pair. -/
example : formPairs "q=a+b%26c&&=".toList = [("q", "a b&c"), ("", "")] := by cbv

/-- Pairs that are appended to a query come after those that it had, whatever these look like. -/
theorem queryPairs_addPairs (u : Url) (pairs : List (String × String)) :
    (u.addPairs pairs).queryPairs = u.queryPairs ++ pairs := by
  cases pairs with
  | nil => exact (List.append_nil _).symm
  | cons p pairs =>
    have hpairs : u.queryPairs = formPairs (u.query.getD []) := by
      unfold queryPairs
      cases u.query <;> rfl
    rw [hpairs]
    change formPairs (u.query.getD [] ++ (if (u.query.getD []).isEmpty then [] else ['&']) ++
      formText (p :: pairs)) = _
    cases u.query.getD [] with
    | nil => exact formPairs_formText (p :: pairs)
    | cons c query =>
      change formPairs (c :: query ++ ['&'] ++ formText (p :: pairs)) = _
      rw [List.append_assoc, List.singleton_append, formPairs_append, formPairs_formText]

end Url

end Gleaner
