import Gleaner.Proofs.Text.Blank
import Gleaner.Proofs.Url.Host

/-!
The scheme of an address that starts with one: what stands in front of the colon, in lower case
(`scheme_of_parse_append`).
-/
namespace Gleaner

namespace Text

theorem rdropWhile_append_of_mem {p : Char → Bool} {rest : List Char}
    (h : ∃ c ∈ rest, p c = false) (front : List Char) :
    (front ++ rest).rdropWhile p = front ++ rest.rdropWhile p := by
  obtain ⟨c, hc, hp⟩ := h
  have hne : rest.reverse.dropWhile p ≠ [] := by
    intro hnil
    have hall := List.dropWhile_eq_nil_iff.mp hnil c (List.mem_reverse.mpr hc)
    simp [hp] at hall
  rw [List.rdropWhile, List.rdropWhile, List.reverse_append, List.dropWhile_append,
    if_neg (by simpa using hne), List.reverse_append, List.reverse_reverse]

theorem exists_rdropWhile_append {p : Char → Bool} {front : List Char}
    (h : ∀ c ∈ front, p c = false) (rest : List Char) :
    ∃ left, (front ++ rest).rdropWhile p = front ++ left := by
  by_cases hrest : ∃ c ∈ rest, p c = false
  · exact ⟨rest.rdropWhile p, rdropWhile_append_of_mem hrest front⟩
  · have hdropped : rest.reverse.dropWhile p = [] := by
      apply List.dropWhile_eq_nil_iff.mpr
      intro c hc
      exact Bool.of_not_eq_false fun hp => hrest ⟨c, List.mem_reverse.mp hc, hp⟩
    have hfront : front.rdropWhile p = front :=
      List.rdropWhile_eq_self_iff.mpr fun hne => by simp [h _ (List.getLast_mem hne)]
    refine ⟨[], ?_⟩
    rw [List.rdropWhile, List.reverse_append, List.dropWhile_append, hdropped,
      if_pos List.isEmpty_nil, List.append_nil]
    exact hfront

end Text

namespace Url

theorem scheme_of_afterSlashes {scheme cs : List Char} {u : Url}
    (h : afterSlashes scheme cs = .ok u) : u.scheme = scheme := by
  obtain ⟨⟨a, rest⟩, _, h⟩ := bind_eq_ok.mp h
  cases h
  rfl

theorem scheme_of_fileAfterSlashes {cs : List Char} {u : Url}
    (h : fileAfterSlashes cs = .ok u) : u.scheme = "file".toList := by
  unfold fileAfterSlashes at h
  dsimp only at h
  split at h
  · cases h
    rfl
  · obtain ⟨host, _, h⟩ := bind_eq_ok.mp h
    cases h
    rfl

theorem scheme_of_afterScheme {scheme cs : List Char} {u : Url}
    (h : afterScheme scheme cs = .ok u) : u.scheme = scheme := by
  unfold afterScheme at h
  split at h
  next hfile =>
    have hscheme : scheme = "file".toList := by
      rw [isFile, beq_iff_eq] at hfile
      rw [← hfile, String.toList_ofList]
    split at h
    · rw [scheme_of_fileAfterSlashes h, hscheme]
    · cases h
      rfl
  next =>
    split at h
    · exact scheme_of_afterSlashes h
    · split at h
      · exact scheme_of_afterSlashes h
      · cases h
        rfl
      · cases h
        rfl

/-- The scheme of an address is what stands in front of its first colon. -/
theorem scheme_of_parse {text : String} {u : Url} {scheme rest : List Char}
    (hsplit : splitScheme? (cleaned text.toList) = some (scheme, rest))
    (h : parse text = .ok u) : u.scheme = scheme := by
  unfold parse resolve at h
  simp only [hsplit] at h
  exact scheme_of_afterScheme h

/-- Cleaning leaves alone what an address starts with, if there are no blanks or controls in it. -/
theorem exists_cleaned {front : List Char} (h : ∀ c ∈ front, 0x20 < c.toNat) (hne : front ≠ [])
    (rest : List Char) : ∃ left, cleaned (front ++ rest) = front ++ left := by
  have houter : ∀ c ∈ front, decide (c.toNat ≤ 0x20) = false := fun c hc =>
    decide_eq_false (Nat.not_le.mpr (h c hc))
  have hstart : (front ++ rest).dropWhile (fun c => decide (c.toNat ≤ 0x20)) = front ++ rest := by
    obtain ⟨c, front, rfl⟩ := List.exists_cons_of_ne_nil hne
    exact List.dropWhile_cons_of_neg (by simp [houter c List.mem_cons_self])
  obtain ⟨left, hleft⟩ := Text.exists_rdropWhile_append houter rest
  have hfront : front.filter (fun c => !(c = '\t' || c = '\n' || c = '\r')) = front := by
    apply List.filter_eq_self.mpr
    intro c hc
    have hc := h c hc
    have htab : c ≠ '\t' := by rintro rfl; simp at hc
    have hline : c ≠ '\n' := by rintro rfl; simp at hc
    have hreturn : c ≠ '\r' := by rintro rfl; simp at hc
    simp [htab, hline, hreturn]
  rw [List.rdropWhile] at hleft
  refine ⟨left.filter fun c => !(c = '\t' || c = '\n' || c = '\r'), ?_⟩
  unfold cleaned
  dsimp only
  rw [hstart, hleft, List.filter_append, hfront]

theorem splitScheme?_append {scheme : List Char} (h : ∀ c ∈ scheme, c.isAlpha = true)
    (hne : scheme ≠ []) (rest : List Char) :
    splitScheme? (scheme ++ ':' :: rest) = some (scheme.map Char.toLower, rest) := by
  have hpart : ∀ c ∈ scheme, (c.isAlphanum || c = '+' || c = '-' || c = '.') = true := by
    intro c hc
    simp [Char.isAlphanum, h c hc]
  unfold splitScheme?
  dsimp only
  rw [List.dropWhile_append_of_pos hpart, List.takeWhile_append_of_pos hpart]
  obtain ⟨c, scheme, rfl⟩ := List.exists_cons_of_ne_nil hne
  simp [h c List.mem_cons_self, Char.isAlphanum]

/-- The scheme of an address that starts with letters and a colon. -/
theorem scheme_of_parse_append {text : String} {scheme rest : List Char} {u : Url}
    (hscheme : ∀ c ∈ scheme, c.isAlpha = true) (hne : scheme ≠ [])
    (htext : text.toList = scheme ++ ':' :: rest) (h : parse text = .ok u) :
    u.scheme = scheme.map Char.toLower := by
  have hfront : ∀ c ∈ scheme ++ [':'], 0x20 < c.toNat := by
    intro c hc
    rcases List.mem_append.mp hc with hc | hc
    · have := Text.toNat_of_isAlpha (hscheme c hc)
      omega
    · cases List.mem_singleton.mp hc
      decide
  obtain ⟨left, hleft⟩ := exists_cleaned hfront (by simp) rest
  have hsplit : splitScheme? (cleaned text.toList) = some (scheme.map Char.toLower, left) := by
    rw [htext, List.append_cons, hleft, List.append_assoc]
    exact splitScheme?_append hscheme hne left
  exact scheme_of_parse hsplit h

end Url

end Gleaner
