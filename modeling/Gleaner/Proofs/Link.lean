import Gleaner.Link
import Gleaner.Proofs.Url.Scheme

/-!
Links made absolute. On a site whose address is that of a page, each link that is not blank becomes
a magnet link or a web address, and these stay as they are, so that nothing changes when a link is
made absolute again (`normalize_absolute`).
-/
namespace Gleaner.Link

/-- A magnet link, or a web address, whose scheme may be in any case. -/
def IsAbsolute (cs : List Char) : Prop :=
  "magnet:".toList <+: cs ∨
    "http://".toList <+: cs.map Char.toLower ∨ "https://".toList <+: cs.map Char.toLower

/-- The scheme of a page, in any case. -/
def IsPageScheme (scheme : List Char) : Prop :=
  scheme.map Char.toLower = "http".toList ∨ scheme.map Char.toLower = "https".toList

/-- The scheme of a page, two slashes, and something behind them besides slashes. -/
def IsBase (active : List Char) : Prop :=
  ∃ scheme rest, active = scheme ++ ':' :: '/' :: '/' :: rest ∧ IsPageScheme scheme ∧
    ∃ c ∈ rest, c ≠ '/'

theorem isWeb_iff {cs : List Char} :
    isWeb cs = true ↔
      "http://".toList <+: cs.map Char.toLower ∨ "https://".toList <+: cs.map Char.toLower := by
  simp only [isWeb, Bool.or_eq_true, List.isPrefixOf_iff_prefix]

theorem isAbsolute_iff {cs : List Char} :
    IsAbsolute cs ↔ "magnet:".toList.isPrefixOf cs = true ∨ isWeb cs = true := by
  rw [isWeb_iff, List.isPrefixOf_iff_prefix, IsAbsolute]

theorem IsAbsolute.ne_nil {cs : List Char} (h : IsAbsolute cs) : cs ≠ [] := by
  rintro rfl
  rcases h with h | h | h <;> simp at h

/-- A web address does not start with a slash. -/
theorem not_slashes_of_isWeb {cs : List Char} (h : isWeb cs = true) :
    ['/', '/'].isPrefixOf cs = false := by
  cases cs with
  | nil => rfl
  | cons c cs =>
    have hc : c ≠ '/' := by
      rintro rfl
      rcases isWeb_iff.mp h with h | h <;> simp at h
    simp [List.isPrefixOf, hc.symm]

theorem normalize_of_isAbsolute (active : String) {raw : String}
    (h : IsAbsolute (Text.trim raw.toList)) : normalize active raw = Text.trimmed raw := by
  have hne : (Text.trim raw.toList).isEmpty = false := by simpa using h.ne_nil
  unfold normalize
  dsimp only
  rw [hne, if_neg Bool.false_ne_true]
  split
  next => rfl
  next hmagnet =>
    have hweb : isWeb (Text.trim raw.toList) = true :=
      (isAbsolute_iff.mp h).resolve_left hmagnet
    rw [not_slashes_of_isWeb hweb, if_neg Bool.false_ne_true, if_pos hweb]
    rfl

theorem normalize_of_blank (active : String) {raw : String} (h : Text.blank raw = true) :
    normalize active raw = "" := by
  unfold normalize
  dsimp only
  rw [Text.blank_iff.mp h]
  rfl

/-! ### Addresses of sites -/

theorem isAlpha_of_isPageScheme {scheme : List Char} (h : IsPageScheme scheme) :
    ∀ c ∈ scheme, c.isAlpha = true := by
  intro c hc
  apply Text.isAlpha_of_toLower
  have hmem : c.toLower ∈ scheme.map Char.toLower := List.mem_map_of_mem hc
  rcases h with h | h
  · have hletters : "http".toList.all Char.isAlpha = true := by decide
    exact List.all_eq_true.mp hletters _ (h ▸ hmem)
  · have hletters : "https".toList.all Char.isAlpha = true := by decide
    exact List.all_eq_true.mp hletters _ (h ▸ hmem)

theorem isWeb_append {scheme : List Char} (h : IsPageScheme scheme) (rest : List Char) :
    isWeb (scheme ++ ':' :: '/' :: '/' :: rest) = true := by
  rw [isWeb_iff, List.map_append]
  rcases h with h | h
  · exact Or.inl ⟨rest.map Char.toLower, by rw [h]; rfl⟩
  · exact Or.inr ⟨rest.map Char.toLower, by rw [h]; rfl⟩

theorem isPageScheme_schemeOf {active : String} (h : IsBase active.toList) :
    IsPageScheme (schemeOf active) := by
  obtain ⟨scheme, rest, hactive, hscheme, -⟩ := h
  have hne : scheme ≠ [] := by
    rintro rfl
    rcases hscheme with h | h <;> simp at h
  unfold schemeOf
  split
  next u hu =>
    rw [Url.scheme_of_parse_append (isAlpha_of_isPageScheme hscheme) hne hactive hu]
    rcases hscheme with h | h <;> rw [h]
    · exact Or.inl rfl
    · exact Or.inr rfl
  next => exact Or.inr rfl

/-- Slashes at the end of the address of a site do not belong to its scheme. -/
theorem exists_withoutEndSlashes {active : List Char} (h : IsBase active) :
    ∃ scheme rest, withoutEndSlashes active = scheme ++ ':' :: '/' :: '/' :: rest ∧
      IsPageScheme scheme := by
  obtain ⟨scheme, rest, rfl, hscheme, c, hc, hslash⟩ := h
  have hkept : withoutEndSlashes (scheme ++ [':', '/', '/'] ++ rest) =
      scheme ++ [':', '/', '/'] ++ withoutEndSlashes rest :=
    Text.rdropWhile_append_of_mem ⟨c, hc, by simpa using hslash⟩ _
  exact ⟨scheme, withoutEndSlashes rest, by simpa using hkept, hscheme⟩

/-- Whether the last character of a text is not blank. -/
def EndsShown (cs : List Char) : Prop := ∃ c ∈ cs.getLast?, Text.isBlank c = false

theorem EndsShown.append {back : List Char} (h : EndsShown back) (front : List Char) :
    EndsShown (front ++ back) := by
  obtain ⟨c, hc, hblank⟩ := h
  refine ⟨c, ?_, hblank⟩
  rw [List.getLast?_append, Option.mem_def.mp hc]
  rfl

theorem endsShown_trim {cs : List Char} (hne : Text.trim cs ≠ []) : EndsShown (Text.trim cs) := by
  obtain ⟨c, hc⟩ := Option.isSome_iff_exists.mp (List.getLast?_isSome.mpr hne)
  obtain ⟨-, hlast⟩ := Text.trim_eq_self_iff.mp (Text.trim_trim cs)
  exact ⟨c, hc, hlast c hc⟩

/-- What is put behind the base ends as the path does, or with a slash. -/
theorem exists_joinChars {path : List Char} (h : EndsShown path) (base : List Char) :
    ∃ tail, joinChars base path = withoutEndSlashes base ++ tail ∧ EndsShown tail := by
  cases path with
  | nil =>
    obtain ⟨c, hc, -⟩ := h
    cases hc
  | cons c path =>
    unfold joinChars
    dsimp only
    split
    next => exact ⟨c :: path, rfl, h⟩
    next =>
      refine ⟨_, rfl, ?_⟩
      obtain ⟨d, hd, hblank⟩ := h
      cases hrest : ((c :: path).dropWhile (· = '/')).getLast? with
      | none => exact ⟨'/', by rw [List.getLast?_cons, hrest]; rfl, rfl⟩
      | some e =>
        obtain ⟨slashes, hslashes⟩ := List.dropWhile_suffix (l := c :: path) (· = '/')
        rw [← hslashes, List.getLast?_append, hrest] at hd
        cases Option.some.inj hd
        exact ⟨d, by rw [List.getLast?_cons, hrest]; rfl, hblank⟩

/-! ### Links -/

theorem settled_of_isPageScheme {scheme rest : List Char} (h : IsPageScheme scheme)
    (hend : EndsShown (scheme ++ ':' :: '/' :: '/' :: rest)) :
    IsAbsolute (scheme ++ ':' :: '/' :: '/' :: rest) ∧
      Text.trim (scheme ++ ':' :: '/' :: '/' :: rest) = scheme ++ ':' :: '/' :: '/' :: rest := by
  refine ⟨isAbsolute_iff.mpr (Or.inr (isWeb_append h rest)), Text.trim_eq_self_iff.mpr ⟨?_, ?_⟩⟩
  · intro c hc
    cases scheme with
    | nil =>
      cases Option.some.inj hc
      rfl
    | cons d scheme =>
      cases Option.some.inj hc
      exact Text.isBlank_of_isAlpha (isAlpha_of_isPageScheme h c List.mem_cons_self)
  · intro c hc
    obtain ⟨d, hd, hblank⟩ := hend
    rw [Option.mem_def.mp hd] at hc
    cases Option.some.inj hc
    exact hblank

/-- What a link is made is absolute and trimmed. -/
theorem normalize_settled {active : String} (h : IsBase active.toList) {raw : String}
    (hraw : Text.blank raw = false) :
    IsAbsolute (normalize active raw).toList ∧
      Text.trim (normalize active raw).toList = (normalize active raw).toList := by
  have hne : Text.trim raw.toList ≠ [] := fun e => by
    simp [Text.blank_iff.mpr e] at hraw
  have hend := endsShown_trim hne
  by_cases habsolute : IsAbsolute (Text.trim raw.toList)
  · rw [normalize_of_isAbsolute active habsolute, Text.trimmed, String.toList_ofList]
    exact ⟨habsolute, Text.trim_trim raw.toList⟩
  · rw [isAbsolute_iff, not_or] at habsolute
    unfold normalize
    dsimp only
    rw [if_neg (by simpa using hne), if_neg habsolute.1]
    split
    next hslashes =>
      obtain ⟨rest, hrest⟩ := List.isPrefixOf_iff_prefix.mp hslashes
      have hwhole : EndsShown (schemeOf active ++ ([':'] ++ Text.trim raw.toList)) :=
        (hend.append [':']).append (schemeOf active)
      rw [← hrest] at hwhole
      rw [String.toList_ofList, ← hrest]
      exact settled_of_isPageScheme (isPageScheme_schemeOf h) hwhole
    next =>
      obtain ⟨scheme, rest, hbase, hscheme⟩ := exists_withoutEndSlashes h
      obtain ⟨tail, htail, htailEnd⟩ := exists_joinChars hend active.toList
      have hjoined : joinChars active.toList (Text.trim raw.toList) =
          scheme ++ ':' :: '/' :: '/' :: (rest ++ tail) := by
        rw [htail, hbase, List.append_assoc]
        rfl
      have hwhole := htailEnd.append (withoutEndSlashes active.toList)
      rw [← htail, hjoined] at hwhole
      rw [if_neg habsolute.2, String.toList_ofList, hjoined]
      exact settled_of_isPageScheme hscheme hwhole

/-- On a site whose address is that of a page a link becomes empty just when it is blank, and else a
magnet link or a web address; made absolute again, it stays what it is. A magnet link or a web
address is only trimmed, on whatever site. -/
theorem normalize_absolute {active : String} (h : IsBase active.toList) (raw : String) :
    (normalize active raw = "" ↔ Text.blank raw = true) ∧
    (normalize active raw = "" ∨ IsAbsolute (normalize active raw).toList) ∧
    normalize active (normalize active raw) = normalize active raw ∧
    ∀ site, IsAbsolute (Text.trim raw.toList) → normalize site raw = Text.trimmed raw := by
  cases hraw : Text.blank raw with
  | true =>
    have hempty := normalize_of_blank active hraw
    refine ⟨by simp [hempty], Or.inl hempty, ?_, fun site => normalize_of_isAbsolute site⟩
    rw [hempty]
    exact normalize_of_blank active rfl
  | false =>
    obtain ⟨habsolute, htrim⟩ := normalize_settled h hraw
    have hne : normalize active raw ≠ "" := fun e => by
      rw [e] at habsolute
      exact habsolute.ne_nil rfl
    refine ⟨by simp [hne], Or.inr habsolute, ?_, fun site => normalize_of_isAbsolute site⟩
    rw [normalize_of_isAbsolute active (by rwa [htrim]), Text.trimmed_eq_self_iff.mpr htrim]

theorem normalize_absolute_uppercase :
    let active := "HTTPS://site.org/base//"
    IsBase active.toList ∧
      normalize active (normalize active " /a.php?id=1 ") = normalize active " /a.php?id=1 " ∧
      normalize active " /a.php?id=1 " = "HTTPS://site.org/base/a.php?id=1" := by
  intro active
  have hactive : active.toList =
      "HTTPS".toList ++ ':' :: '/' :: '/' :: "site.org/base//".toList := by decide
  have hscheme : IsPageScheme "HTTPS".toList := Or.inr (by decide)
  have hrest : ∃ c ∈ "site.org/base//".toList, c ≠ '/' := ⟨'s', by simp, by decide⟩
  have h : IsBase active.toList := ⟨_, _, hactive, hscheme, hrest⟩
  exact ⟨h, (normalize_absolute h " /a.php?id=1 ").2.2.1, by decide +kernel⟩

end Gleaner.Link
