import Gleaner.Proofs.Keyed
import Gleaner.Proofs.Text.Find
import Gleaner.Site.Access

/-!
The signs of a session that is not logged in, said without the way they are looked for
(`LoggedOut`), and that the login check finds them (`signs_decide`). Only the first `url=` of a
refresh header is looked at: the text behind any other one is part of the text behind it
(`exists_afterUrl?`). Blanks and quotes around the target belong to no marker, so dropping them
changes nothing.
-/
namespace Gleaner.AuthPolicy

open Text (Mentions SameButCase IsWord)

theorem hasMarker_iff {markers : List String}
    (hlower : ∀ m ∈ markers, m.toList.map Char.toLower = m.toList) {cs : List Char} :
    hasMarker markers cs = true ↔ ∃ m ∈ markers, Mentions m.toList cs := by
  rw [hasMarker, List.any_eq_true]
  refine exists_congr fun m => and_congr_right fun hm => ?_
  rw [Text.isInfix_iff, Text.mentions_iff, hlower m hm]

theorem isQuote_of_isAlpha {c : Char} (h : c.isAlpha = true) : isQuote c = false := by
  refine Bool.of_not_eq_true fun hquote => ?_
  simp only [isQuote, Bool.or_eq_true, decide_eq_true_eq] at hquote
  rcases hquote with rfl | rfl
  · cases h
  · cases h

/-! ### The target of a refresh header -/

theorem url_lower : "url=".toList.map Char.toLower = "url=".toList := by decide

theorem url_sizes : ∀ c ∈ "url=".toList, c.utf8Size = 1 := by
  have hall : "url=".toList.all (fun c => c.utf8Size == 1) = true := by decide
  intro c hc
  exact beq_iff_eq.mp (List.all_eq_true.mp hall c hc)

theorem afterUrl?_cons (c : Char) (cs : List Char) :
    afterUrl? (c :: cs) =
      if "url=".toList.isPrefixOf ((c :: cs).map Char.toLower) then some ((c :: cs).drop 4)
      else afterUrl? cs := rfl

/-- The first `url=` is one of those the header has. -/
theorem afterUrl?_eq_some {cs rest : List Char} (h : afterUrl? cs = some rest) :
    ∃ before separator, cs = before ++ separator ++ rest ∧ SameButCase separator "url=".toList := by
  induction cs with
  | nil => cases h
  | cons c cs ih =>
    rw [afterUrl?_cons] at h
    split at h
    next hfound =>
      obtain ⟨separator, rest', hcs, hseparator⟩ := (Text.isPrefixOf_lower_iff url_lower).mp hfound
      have hlength : separator.length = 4 := hseparator.length_eq
      rw [hcs, ← hlength, List.drop_left, Option.some.injEq] at h
      exact ⟨[], separator, by rw [hcs, h]; rfl, hseparator⟩
    next =>
      obtain ⟨before, separator, hcs, hseparator⟩ := ih h
      exact ⟨c :: before, separator, by rw [hcs]; rfl, hseparator⟩

/-- What stands behind any `url=` stands behind the first as well. -/
theorem exists_afterUrl? {separator : List Char} (hseparator : SameButCase separator "url=".toList)
    (before target : List Char) :
    ∃ rest, afterUrl? (before ++ separator ++ target) = some rest ∧ target <:+ rest := by
  have hlength : separator.length = 4 := hseparator.length_eq
  induction before with
  | nil =>
    cases separator with
    | nil => cases hlength
    | cons c separator =>
      have hfound : "url=".toList.isPrefixOf
          ((c :: (separator ++ target)).map Char.toLower) = true :=
        (Text.isPrefixOf_lower_iff url_lower).mpr ⟨c :: separator, target, rfl, hseparator⟩
      refine ⟨target, ?_, List.suffix_rfl⟩
      change afterUrl? (c :: (separator ++ target)) = some target
      rw [afterUrl?_cons, if_pos hfound, ← List.cons_append, ← hlength, List.drop_left]
  | cons c before ih =>
    change ∃ rest, afterUrl? (c :: (before ++ separator ++ target)) = some rest ∧ target <:+ rest
    rw [afterUrl?_cons]
    split
    next =>
      have hfits : 4 ≤ (c :: (before ++ separator)).length := by simp; omega
      refine ⟨_, rfl, ?_⟩
      rw [← List.cons_append, List.drop_append_of_le_length hfits]
      exact List.suffix_append _ target
    next => exact ih

/-- Dropping blanks and then quotes at both ends takes no word from a text. -/
theorem mentions_unquoted {part : List Char} (hpart : IsWord part) (cs : List Char) :
    Mentions part (((Text.trim cs).dropWhile isQuote).reverse.dropWhile isQuote).reverse ↔
      Mentions part cs := by
  have hp : ∀ c : Char, c.isAlpha = true → isQuote c = false := fun c => isQuote_of_isAlpha
  rw [Text.mentions_dropWhile_end hp hpart, Text.mentions_dropWhile hp hpart,
    Text.mentions_trim hpart]

theorem not_mentions_nil {part : List Char} (hpart : IsWord part) : ¬ Mentions part [] := by
  rintro ⟨before, found, after, hnil, hfound⟩
  obtain ⟨c, rest, rfl, -⟩ := hpart.exists_cons hfound
  simp at hnil

theorem mentions_refreshTarget? {part : List Char} (hpart : IsWord part) (header : String) :
    (∃ target, refreshTarget? header = some target ∧ Mentions part target) ↔
      ∃ rest, afterUrl? header.toList = some rest ∧ Mentions part rest := by
  unfold refreshTarget?
  cases hrest : afterUrl? header.toList with
  | none => simp
  | some rest =>
    have hkept := mentions_unquoted hpart rest
    simp only [Option.bind_some, Option.some.injEq, exists_eq_left']
    rw [← hkept]
    split
    next hempty =>
      rw [List.isEmpty_iff.mp hempty]
      simp [not_mentions_nil hpart]
    next => simp

theorem redirectMarkers_words : ∀ m ∈ redirectMarkers, IsWord m.toList := by
  simp only [redirectMarkers, IsWord]
  decide

theorem redirectMarkers_lower : ∀ m ∈ redirectMarkers, m.toList.map Char.toLower = m.toList := by
  decide

theorem any_refreshTarget?_iff (header : String) :
    (refreshTarget? header).any (hasMarker redirectMarkers) = true ↔
      ∃ m ∈ redirectMarkers, ∃ rest,
        afterUrl? header.toList = some rest ∧ Mentions m.toList rest := by
  have hany : (refreshTarget? header).any (hasMarker redirectMarkers) = true ↔
      ∃ m ∈ redirectMarkers, ∃ target,
        refreshTarget? header = some target ∧ Mentions m.toList target := by
    cases refreshTarget? header with
    | none => simp
    | some target => simp [hasMarker_iff redirectMarkers_lower]
  rw [hany]
  exact exists_congr fun m => and_congr_right fun hm =>
    mentions_refreshTarget? (redirectMarkers_words m hm) header

/-- A place that is found in the lowered header cuts the header itself, behind a whole character. -/
theorem afterBytes?_byteOffset? (cs : List Char) :
    (Text.byteOffset? "url=".toList (cs.map Char.toLower)).map
      (fun place => Text.afterBytes? (place + 4) cs) = (afterUrl? cs).map some := by
  induction cs with
  | nil => rfl
  | cons c cs ih =>
    rw [afterUrl?_cons, List.map_cons, Text.byteOffset?, ← List.map_cons]
    by_cases hfound : "url=".toList.isPrefixOf ((c :: cs).map Char.toLower) = true
    · obtain ⟨separator, rest, hcs, hseparator⟩ := (Text.isPrefixOf_lower_iff url_lower).mp hfound
      have hlength : separator.length = 4 := hseparator.length_eq
      have hbytes := Text.afterBytes?_append (hseparator.utf8Size_eq_one url_sizes) rest
      have hcut : Text.afterBytes? 4 (c :: cs) = some ((c :: cs).drop 4) := by
        rw [hcs, ← hlength, List.drop_left]
        exact hbytes
      rw [if_pos hfound, if_pos hfound, Option.map_some, Nat.zero_add, hcut, Option.map_some]
    · rw [if_neg hfound, if_neg hfound, ← ih, Option.map_map]
      congr 1
      funext place
      have hstep := Text.afterBytes?_add (place + 4) c cs
      simp only [Function.comp_apply, Text.utf8Size_toLower]
      rw [← hstep, Nat.add_right_comm]

/-! ### The signs -/

/-- The signs that nobody is logged in. The case of letters counts in none of them. -/
inductive LoggedOut (r : Web.Response) : Prop
  | address {marker : String} :
      marker ∈ ["login", "verify", "checkpoint", "returnto"] →
      Mentions marker.toList r.finalUrl.toList → LoggedOut r
  /-- Behind any `url=` of a refresh header, not only the first. -/
  | refresh {name header marker : String} {before separator target : List Char} :
      (name, header) ∈ r.headers.entries → SameButCase name.toList "refresh".toList →
      header.toList = before ++ separator ++ target → SameButCase separator "url=".toList →
      marker ∈ ["login", "verify", "checkpoint", "returnto"] →
      Mentions marker.toList target → LoggedOut r
  | noBody : r.body = none → LoggedOut r
  | shortBody {body marker : String} :
      r.body = some body → body.length < 800 → marker ∈ ["login", "not authorized"] →
      Mentions marker.toList body.toList → LoggedOut r

/-- Headers with names in lower case are found by any spelling of a name. -/
theorem header?_eq_some_iff {r : Web.Response}
    (hnames : ∀ key ∈ r.headers.keys, Text.asciiLower key = key) {name header : String} :
    r.header? name = some header ↔
      ∃ key, (key, header) ∈ r.headers.entries ∧ SameButCase key.toList name.toList := by
  constructor
  · intro h
    have hmem := Keyed.mem_of_lookup h
    exact ⟨_, hmem, Text.asciiLower_eq_iff.mp (hnames _ (Keyed.mem_keys_of_mem hmem))⟩
  · rintro ⟨key, hmem, hsame⟩
    have hkey : key = Text.asciiLower name :=
      (hnames key (Keyed.mem_keys_of_mem hmem)).symm.trans (Text.asciiLower_eq_iff.mpr hsame)
    exact Keyed.lookup_of_mem r.headers.nodup (hkey ▸ hmem)

/-- The refresh header of a response shows that nobody is logged in. -/
theorem refresh_shows_iff {r : Web.Response}
    (hnames : ∀ key ∈ r.headers.keys, Text.asciiLower key = key) :
    ((r.header? "refresh").bind refreshTarget?).any (hasMarker redirectMarkers) = true ↔
      ∃ name header, (name, header) ∈ r.headers.entries ∧
        SameButCase name.toList "refresh".toList ∧
        ∃ before separator target, header.toList = before ++ separator ++ target ∧
          SameButCase separator "url=".toList ∧
          ∃ m ∈ redirectMarkers, Mentions m.toList target := by
  constructor
  · intro h
    cases hheader : r.header? "refresh" with
    | none => simp [hheader] at h
    | some header =>
      obtain ⟨name, hmem, hname⟩ := (header?_eq_some_iff hnames).mp hheader
      rw [hheader, Option.bind_some, any_refreshTarget?_iff] at h
      obtain ⟨m, hm, rest, hrest, hmention⟩ := h
      obtain ⟨before, separator, hsplit, hseparator⟩ := afterUrl?_eq_some hrest
      exact ⟨name, header, hmem, hname, before, separator, rest, hsplit, hseparator, m, hm,
        hmention⟩
  · rintro ⟨name, header, hmem, hname, before, separator, target, hsplit, hseparator, m, hm,
      hmention⟩
    have hheader := (header?_eq_some_iff hnames).mpr ⟨name, hmem, hname⟩
    obtain ⟨rest, hrest, hsuffix⟩ := exists_afterUrl? hseparator before target
    rw [hheader, Option.bind_some, any_refreshTarget?_iff]
    exact ⟨m, hm, rest, hsplit ▸ hrest, hmention.of_infix hsuffix.isInfix⟩

theorem looksLoggedOut_iff {r : Web.Response}
    (hnames : ∀ key ∈ r.headers.keys, Text.asciiLower key = key) :
    looksLoggedOut r = true ↔ LoggedOut r := by
  have haddress : hasMarker redirectMarkers r.finalUrl.toList = true ↔
      ∃ m ∈ redirectMarkers, Mentions m.toList r.finalUrl.toList :=
    hasMarker_iff redirectMarkers_lower
  have hrefresh := refresh_shows_iff hnames
  have hbody : ∀ body : String, hasMarker bodyMarkers body.toList = true ↔
      ∃ m ∈ bodyMarkers, Mentions m.toList body.toList := fun body => hasMarker_iff (by decide)
  rw [looksLoggedOut, Bool.or_eq_true, Bool.or_eq_true, haddress, hrefresh]
  constructor
  · rintro ((⟨m, hm, hmention⟩ | hshown) | hshown)
    · exact .address hm hmention
    · obtain ⟨name, header, hmem, hname, before, separator, target, hsplit, hseparator, m, hm,
        hmention⟩ := hshown
      exact .refresh hmem hname hsplit hseparator hm hmention
    · cases h : r.body with
      | none => exact .noBody h
      | some body =>
        rw [h, Bool.and_eq_true, decide_eq_true_eq, hbody] at hshown
        obtain ⟨hshort, m, hm, hmention⟩ := hshown
        exact .shortBody h hshort hm hmention
  · intro h
    cases h with
    | address hm hmention => exact .inl (.inl ⟨_, hm, hmention⟩)
    | refresh hmem hname hsplit hseparator hm hmention =>
      exact .inl (.inr ⟨_, _, hmem, hname, _, _, _, hsplit, hseparator, _, hm, hmention⟩)
    | noBody h => exact .inr (by rw [h])
    | shortBody h hshort hm hmention =>
      refine .inr ?_
      rw [h, Bool.and_eq_true, decide_eq_true_eq, hbody]
      exact ⟨hshort, _, hm, hmention⟩

/-- A long body shows nothing. -/
theorem looksLoggedOut_of_long {r : Web.Response} {body : String} (h : r.body = some body)
    (hlong : shortBody ≤ body.length) :
    looksLoggedOut r = (hasMarker redirectMarkers r.finalUrl.toList ||
      ((r.header? "refresh").bind refreshTarget?).any (hasMarker redirectMarkers)) := by
  have hnot : ¬ body.length < shortBody := Nat.not_lt.mpr hlong
  simp [looksLoggedOut, h, hnot]

/-- Where a login is needed, a response is rejected just when it shows one of the signs, and the
body is none of them from 800 characters on. Looking for the target cuts no header where it has no
character to start from. -/
theorem signs_decide :
    (∀ r : Web.Response, (∀ name ∈ r.headers.keys, Text.asciiLower name = name) →
      (members.accepts r = false ↔ LoggedOut r)) ∧
    (∀ r : Web.Response, everyone.accepts r = true) ∧
    (∀ (p : AuthPolicy) (r r' : Web.Response) (body body' : String),
      r.finalUrl = r'.finalUrl → r.header? "refresh" = r'.header? "refresh" →
      r.body = some body → r'.body = some body' →
      800 ≤ body.length → 800 ≤ body'.length → p.accepts r = p.accepts r') ∧
    ∀ header : String,
      (Text.byteOffset? "url=".toList (Text.asciiLower header).toList).map
          (fun place => Text.afterBytes? (place + 4) header.toList) =
        (afterUrl? header.toList).map some := by
  refine ⟨fun r hnames => ?_, fun r => rfl, ?_, fun header => ?_⟩
  · rw [accepts, Bool.not_eq_false', looksLoggedOut_iff hnames]
  · intro p r r' body body' haddress hrefresh hbody hbody' hlong hlong'
    cases p with
    | everyone => rfl
    | members =>
      rw [accepts, accepts, looksLoggedOut_of_long hbody hlong,
        looksLoggedOut_of_long hbody' hlong', haddress, hrefresh]
  · have hlower : (Text.asciiLower header).toList = header.toList.map Char.toLower :=
      String.toList_ofList
    rw [hlower]
    exact afterBytes?_byteOffset? header.toList

/-- A login stands behind the second `URL=` of the refresh header only. -/
def refreshing (body : String) : Web.Response where
  status := 200
  url := "https://site.org/"
  finalUrl := "https://site.org/"
  headers := .ofList [("refresh", "0; URL='/x?Url=/LogIn'")]
  contentType := none
  body := some body

/-- A body of 800 characters and some in front of them. -/
def padded (front : String) : String := String.ofList (front.toList ++ List.replicate 800 'x')

theorem le_length_padded (front : String) : 800 ≤ (padded front).length := by
  rw [padded, String.length_ofList, List.length_append, List.length_replicate]
  exact Nat.le_add_left 800 _

theorem signs_decide_refreshing :
    (∀ name ∈ (refreshing "Moved").headers.keys, Text.asciiLower name = name) ∧
    members.accepts (refreshing "Moved") = false ∧
    members.accepts (refreshing (padded "login")) = members.accepts (refreshing (padded "")) := by
  have hnames : ∀ name ∈ (refreshing "Moved").headers.keys, Text.asciiLower name = name := by decide
  have hmention : Mentions "login".toList "/LogIn'".toList :=
    ⟨['/'], "LogIn".toList, ['\''], rfl, rfl⟩
  have hsplit : "0; URL='/x?Url=/LogIn'".toList =
      "0; URL='/x?".toList ++ "Url=".toList ++ "/LogIn'".toList := by decide
  have hsign : LoggedOut (refreshing "Moved") :=
    .refresh (List.mem_singleton.mpr rfl) rfl hsplit rfl List.mem_cons_self hmention
  -- for bodies with names: comparing the two texts of 800 characters would unroll them
  have hlong : ∀ body body' : String, 800 ≤ body.length → 800 ≤ body'.length →
      members.accepts (refreshing body) = members.accepts (refreshing body') := fun body body' =>
    signs_decide.2.2.1 members (refreshing body) (refreshing body') body body' rfl rfl rfl rfl
  exact ⟨hnames, (signs_decide.1 _ hnames).mpr hsign,
    hlong _ _ (le_length_padded "login") (le_length_padded "")⟩

end Gleaner.AuthPolicy
