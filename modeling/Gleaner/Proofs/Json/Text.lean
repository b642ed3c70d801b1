import Gleaner.Proofs.Json.Number
import Gleaner.Proofs.Json.WellKeyed

/-!
Flat objects read back from their text. What a member's value is read as is left open, since a
number comes back as a number but perhaps as another one (`ReadsAs`); names and texts come back as
they were (`parse?_compact_obj`).
-/
namespace Gleaner.Json

section Strings

theorem hexValue?_digitChar : ∀ d < 16, Text.hexValue? (Nat.digitChar d) = some d := by decide

/-- One character of a string is read as it was written. -/
theorem stringBody?_escapedChar (c : Char) (rest : List Char) :
    stringBody? (escapedChar c ++ rest) = (stringBody? rest).map fun r => (c :: r.1, r.2) := by
  unfold escapedChar
  split
  · subst_vars; simp [stringBody?]
  split
  · subst_vars; simp [stringBody?]
  split
  next h =>
    obtain rfl : c = Char.ofNat 8 := by rw [← h, Char.ofNat_toNat]
    simp [stringBody?]
  split
  next h =>
    obtain rfl : c = Char.ofNat 12 := by rw [← h, Char.ofNat_toNat]
    simp [stringBody?]
  split
  · subst_vars; simp [stringBody?]
  split
  · subst_vars; simp [stringBody?]
  split
  · subst_vars; simp [stringBody?]
  split
  next hlow =>
    have hhigh := hexValue?_digitChar (c.toNat / 16) (by omega)
    have hrest := hexValue?_digitChar (c.toNat % 16) (by omega)
    have hzero : Text.hexValue? '0' = some 0 := rfl
    have hhex : hex4 '0' '0' (Nat.digitChar (c.toNat / 16)) (Nat.digitChar (c.toNat % 16)) =
        some c.toNat := by
      simp only [hex4, hzero, hhigh, hrest, Option.bind_eq_bind, Option.bind_some, Option.pure_def]
      congr 1
      omega
    have hsmall : ¬ 0xd800 ≤ c.toNat := by omega
    have hsmall' : ¬ 0xdc00 ≤ c.toNat := by omega
    simp [stringBody?, hhex, hsmall, hsmall', Char.ofNat_toNat]
  next h1 h2 h3 h4 h5 h6 h7 h8 =>
    simp only [List.cons_append, List.nil_append]
    rw [stringBody?.eq_def]
    split <;> simp_all

theorem stringBody?_escaped (cs rest : List Char) :
    stringBody? (cs.flatMap escapedChar ++ '"' :: rest) = some (cs, rest) := by
  induction cs with
  | nil => simp [stringBody?]
  | cons c cs ih =>
    rw [List.flatMap_cons, List.append_assoc, stringBody?_escapedChar, ih, Option.map_some]

end Strings

section Members

/-- The text of a member's value is read as another value, whatever follows the member. -/
def ReadsAs (cs : List Char) (j : Json) : Prop :=
  ∀ fuel depth rest, EndsMember rest → value? (fuel + 1) depth (cs ++ rest) = some (j, rest)

theorem readsAs_str (s : String) : ReadsAs (stringText s) (.str s) := by
  intro fuel depth rest _
  have hbody := stringBody?_escaped s.toList rest
  simp [stringText, value?, skipSpace, isSpace, hbody, String.ofList_toList]

theorem readsAs_null : ReadsAs "null".toList .null := by
  intro fuel depth rest _
  simp [value?, skipSpace, isSpace]

theorem minus_cons {c : Char} (hc : c ≠ '-') (cs : List Char) :
    minus (c :: cs) = (false, c :: cs) := by
  unfold minus
  split
  next h => exact absurd (List.cons.inj h).1 hc
  next => rfl

/-- A number starts with its sign or a digit. -/
theorem start_of_number? {cs : List Char} {r : Number × List Char} (h : number? cs = some r) :
    ∃ c ds, cs = c :: ds ∧ (c = '-' ∨ c.isDigit = true) := by
  cases cs with
  | nil => simp [number?, minus] at h
  | cons c ds =>
    refine ⟨c, ds, rfl, ?_⟩
    by_contra hne
    obtain ⟨hminus, hdigit⟩ := not_or.mp hne
    simp [number?, minus_cons hminus, hdigit] at h

/-- Nothing else starts as a number does. -/
theorem value?_of_number? {cs : List Char} {n : Number} {rest : List Char} (fuel depth : ℕ)
    (h : number? cs = some (n, rest)) : value? (fuel + 1) depth cs = some (.num n, rest) := by
  obtain ⟨c, ds, rfl, hc⟩ := start_of_number? h
  have hstart : ∀ d ∈ [' ', '\n', '\t', '\r', '"', '[', '\x7b', 'n', 't', 'f'],
      ¬ (d = '-' ∨ d.isDigit = true) := by simp
  have hne : c ∉ [' ', '\n', '\t', '\r', '"', '[', '\x7b', 'n', 't', 'f'] := fun hmem =>
    hstart c hmem hc
  have hspace : skipSpace (c :: ds) = c :: ds := by
    simp_all [skipSpace, isSpace]
  rw [value?, hspace]
  split <;> simp_all

/-- A finite number is read as a number. -/
theorem readsAs_real {x : Float} (h : x.isFinite = true) :
    ∃ y, ReadsAs (compactChars (.num (.real x))) (.num (.real y)) := by
  obtain ⟨y, hy⟩ := readsReal_text h
  exact ⟨y, fun fuel depth rest hrest => value?_of_number? fuel depth (hy rest hrest)⟩

/-- The members of an object that are read, one for each that is written. -/
def MembersRead (written read : List (String × Json)) : Prop :=
  List.Forall₂ (fun m r => m.1 = r.1 ∧ ReadsAs (compactChars m.2) r.2) written read

theorem length_le_compactMembers (ms : List (String × Json)) :
    ms.length ≤ (compactMembers ms).length := by
  induction ms with
  | nil => exact Nat.zero_le _
  | cons m ms ih =>
    simp only [compactMembers, List.length_cons, List.length_append]
    omega

section

variable {k : String} {r : Json} {cs : List Char} (fuel depth : ℕ) (rest : List Char)

theorem members?_last (h : ReadsAs cs r) :
    members? (fuel + 2) depth (stringText k ++ ':' :: cs ++ '\x7d' :: rest) =
      some ([(k, r)], rest) := by
  have hname := stringBody?_escaped k.toList (':' :: (cs ++ '\x7d' :: rest))
  have hvalue := h fuel depth ('\x7d' :: rest) ⟨'\x7d', rest, rfl, Or.inr rfl⟩
  simp [members?, stringText, skipSpace, isSpace, hname, hvalue, String.ofList_toList]

theorem members?_next (h : ReadsAs cs r) :
    members? (fuel + 2) depth (stringText k ++ ':' :: cs ++ ',' :: rest) =
      (members? (fuel + 1) depth rest).map fun p => ((k, r) :: p.1, p.2) := by
  have hname := stringBody?_escaped k.toList (':' :: (cs ++ ',' :: rest))
  have hvalue := h fuel depth (',' :: rest) ⟨',', rest, rfl, Or.inl rfl⟩
  rw [members?]
  simp [stringText, skipSpace, isSpace, hname, hvalue, String.ofList_toList]

end

theorem members?_compact {k : String} {j r : Json} {ms rs : List (String × Json)} {fuel : ℕ}
    (depth : ℕ) (rest : List Char) (hvalue : ReadsAs (compactChars j) r) (h : MembersRead ms rs)
    (hfuel : ms.length + 2 ≤ fuel) :
    members? fuel depth (stringText k ++ ':' :: compactChars j ++ (compactMembers ms ++ rest)) =
      some ((k, r) :: rs, rest) := by
  induction h generalizing fuel k j r with
  | nil =>
    obtain ⟨fuel, rfl⟩ := Nat.exists_eq_add_of_le' hfuel
    exact members?_last fuel depth rest hvalue
  | @cons m s ms rs hm _ ih =>
    rw [List.length_cons] at hfuel
    obtain ⟨fuel, rfl⟩ := Nat.exists_eq_add_of_le' (by omega : 2 ≤ fuel)
    have hrest : members? (fuel + 1) depth
        (stringText m.1 ++ ':' :: compactChars m.2 ++ (compactMembers ms ++ rest)) =
          some ((m.1, s.2) :: rs, rest) := ih hm.2 (by omega)
    have htext : compactMembers (m :: ms) ++ rest = ',' :: (stringText m.1 ++ ':' ::
        compactChars m.2 ++ (compactMembers ms ++ rest)) := by
      simp [compactMembers]
    rw [htext, members?_next _ _ _ hvalue, hrest, hm.1]
    rfl

theorem value?_object (fuel depth : ℕ) (k : String) (cs : List Char) :
    value? (fuel + 1) (depth + 1) ('\x7b' :: (stringText k ++ cs)) =
      (members? fuel depth (stringText k ++ cs)).map fun p => (.obj p.1, p.2) := by
  simp [value?, stringText, skipSpace, isSpace]

/-- An object without objects inside is read member by member. -/
theorem raw?_compact_obj {ms rs : List (String × Json)} (h : MembersRead ms rs) :
    raw? (compact (.obj ms)) = some (.obj rs) := by
  unfold raw? compact
  rw [String.toList_ofList]
  cases h with
  | nil => rfl
  | @cons m r ms rs hm h =>
    have htext : compactChars (.obj (m :: ms)) = '\x7b' :: (stringText m.1 ++ (':' ::
        compactChars m.2 ++ (compactMembers ms ++ []))) := by
      simp [compactChars]
    have hfuel : ms.length + 2 ≤ (compactChars (.obj (m :: ms))).length := by
      have hlength := length_le_compactMembers ms
      simp only [htext, stringText, List.length_cons, List.length_append]
      omega
    have hmembers := members?_compact (k := m.1) 126 [] hm.2 h hfuel
    have hvalue := value?_object (compactChars (.obj (m :: ms))).length 126 m.1
      (':' :: compactChars m.2 ++ (compactMembers ms ++ []))
    rw [← htext, ← List.append_assoc, hmembers, Option.map_some, hm.1] at hvalue
    simp only [hvalue]
    rfl

theorem keys_of_membersRead {ms rs : List (String × Json)} (h : MembersRead ms rs) :
    Keyed.keys rs = Keyed.keys ms := by
  induction h with
  | nil => rfl
  | cons hm _ ih => rw [Keyed.keys_cons, Keyed.keys_cons, ih, hm.1]

theorem parse?_compact_obj {ms rs : List (String × Json)} (h : MembersRead ms rs)
    (hkeyed : (obj rs).WellKeyed) : parse? (compact (.obj ms)) = some (.obj rs) := by
  rw [parse?, raw?_compact_obj h, Option.map_some, dedupe_eq_self hkeyed]

end Members

end Gleaner.Json
