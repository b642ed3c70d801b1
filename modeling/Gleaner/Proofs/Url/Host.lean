import Gleaner.Url.Parser

/-!
Hosts of addresses that were read. However an address is written, the host that is read of it has
something to show that is not blank (`host_of_parse`).
-/
namespace Gleaner

theorem bind_eq_ok {ε α β : Type} {x : Except ε α} {f : α → Except ε β} {b : β} :
    (x >>= f) = .ok b ↔ ∃ a, x = .ok a ∧ f a = .ok b := by
  cases x <;> simp [bind, Except.bind]

theorem ite_error_eq_ok {ε α : Type} {p : Prop} [Decidable p] {e : ε} {x : Except ε α} {a : α} :
    (if p then .error e else x) = .ok a ↔ ¬ p ∧ x = .ok a := by
  by_cases hp : p <;> simp [hp]

theorem eq_of_guarded {ε α : Type} {p : Prop} [Decidable p] {e : ε} {x y : α}
    (h : (do
      if p then throw e
      return x : Except ε α) = .ok y) : x = y := by
  split at h
  · cases h
  · exact Except.ok.inj h

namespace Url

/-- A text that has more in it than blanks. -/
def Shown (cs : List Char) : Prop := ∃ c ∈ cs, Text.isBlank c = false

theorem Shown.blank_eq_false {cs : List Char} (h : Shown cs) :
    Text.blank (String.ofList cs) = false := by
  obtain ⟨c, hc, hb⟩ := h
  rw [Text.blank, String.toList_ofList, List.all_eq_false]
  exact ⟨c, hc, by simp [hb]⟩

/-! ### The text of a host -/

theorem mem_joinLabels {c : Char} {ls : List (List Char)} (h : c ∈ joinLabels ls) :
    c = '.' ∨ ∃ l ∈ ls, c ∈ l := by
  induction ls using joinLabels.induct with
  | case1 => simp [joinLabels] at h
  | case2 l => exact Or.inr ⟨l, by simp, h⟩
  | case3 l ls hne ih =>
    rw [joinLabels.eq_3 _ _ hne] at h
    rcases List.mem_append.mp h with h | h
    · exact Or.inr ⟨l, by simp, h⟩
    · rcases List.mem_cons.mp h with h | h
      · exact Or.inl h
      · exact (ih h).imp_right fun ⟨l', hl', hc⟩ => ⟨l', List.mem_cons_of_mem _ hl', hc⟩

theorem mem_joinLabels_of_mem {c : Char} {l : List Char} {ls : List (List Char)} (hl : l ∈ ls)
    (hc : c ∈ l) : c ∈ joinLabels ls := by
  induction ls using joinLabels.induct with
  | case1 => simp at hl
  | case2 k =>
    cases List.mem_singleton.mp hl
    exact hc
  | case3 k ls hne ih =>
    rw [joinLabels.eq_3 _ _ hne]
    rcases List.mem_cons.mp hl with rfl | hl
    · exact List.mem_append_left _ hc
    · exact List.mem_append_right _ (List.mem_cons_of_mem _ (ih hl))

theorem isForbiddenInDomain_of_isBlank {c : Char} (hb : Text.isBlank c = true)
    (hc : c.toNat < 128) : isForbiddenInDomain c = true := by
  simp [Text.isBlank] at hb
  simp [isForbiddenInDomain]
  omega

/-- A name that is not empty has a label in ASCII, of which no character is blank, or one in
Punycode, which starts with a letter. -/
theorem shown_of_asciiDomain? {cs name : List Char} (h : asciiDomain? cs = some name)
    (hne : name ≠ []) : Shown name := by
  obtain ⟨prepared, _, h⟩ := Option.bind_eq_some_iff.mp h
  obtain ⟨labels, _, h⟩ := Option.bind_eq_some_iff.mp h
  simp only [Option.ite_none_left_eq_some, Bool.or_eq_true, not_or, Bool.not_eq_true] at h
  obtain ⟨⟨_, hallowed⟩, hname⟩ := h
  cases Option.some.inj hname
  obtain ⟨c, hc⟩ := List.exists_mem_of_ne_nil _ hne
  rcases mem_joinLabels hc with rfl | ⟨l, hl, hcl⟩
  · exact ⟨'.', hc, rfl⟩
  · obtain ⟨label, _, rfl⟩ := List.mem_map.mp hl
    by_cases hascii : isAscii label = true
    · refine ⟨c, hc, Bool.eq_false_iff.mpr fun hb => ?_⟩
      rw [asciiLabel, if_pos hascii] at hcl
      have hlt : c.toNat < 128 := by simpa using List.all_eq_true.mp hascii c hcl
      exact List.any_eq_false.mp hallowed c hc (isForbiddenInDomain_of_isBlank hb hlt)
    · refine ⟨'x', mem_joinLabels_of_mem hl ?_, rfl⟩
      rw [asciiLabel, if_neg hascii]
      exact List.mem_cons_self

theorem shown_ipv4Text (n : Nat) : Shown (ipv4Text n) := by
  refine ⟨'.', ?_, rfl⟩
  simp [ipv4Text, joinLabels]

theorem shown_ipv6Text (ps : List Nat) : Shown (ipv6Text ps) :=
  ⟨'[', List.mem_cons_self, rfl⟩

theorem encodeChar_ne_nil (c : Char) : Utf8.encodeChar c ≠ [] := by
  simp only [Utf8.encodeChar]
  split
  · simp
  · split
    · simp
    · split <;> simp

theorem mem_percentChar (c : Char) : '%' ∈ percentChar c := by
  obtain ⟨b, hb⟩ := List.exists_mem_of_ne_nil _ (encodeChar_ne_nil c)
  exact List.mem_flatMap.mpr ⟨b, hb, List.mem_cons_self⟩

theorem shown_percentEncode {cs : List Char} (hne : cs ≠ [])
    (h : cs.any isForbiddenInHost = false) : Shown (percentEncode [] cs) := by
  obtain ⟨c, hc⟩ := List.exists_mem_of_ne_nil cs hne
  by_cases hcontrol : isControl c = true
  · refine ⟨'%', List.mem_flatMap.mpr ⟨c, hc, ?_⟩, rfl⟩
    simpa [hcontrol] using mem_percentChar c
  · refine ⟨c, List.mem_flatMap.mpr ⟨c, hc, by simp [hcontrol]⟩, Bool.eq_false_iff.mpr fun hb => ?_⟩
    have hspace : c ≠ ' ' := by
      rintro rfl
      exact List.any_eq_false.mp h ' ' hc rfl
    have hn : c.toNat ≠ 0x20 := fun he => hspace (Char.toNat_inj.mp he)
    simp [isControl] at hcontrol
    simp [Text.isBlank] at hb
    omega

theorem shown_of_bracketed? {cs : List Char} {h : Host} (hh : bracketed? cs = .ok h) :
    Shown h.text := by
  unfold bracketed? at hh
  split at hh
  · split at hh
    next ps _ =>
      cases hh
      exact shown_ipv6Text ps
    next => cases hh
  · cases hh

theorem Host.shown_of_parse {cs : List Char} {h : Host} (hh : Host.parse cs = .ok h) :
    Shown h.text := by
  unfold Host.parse at hh
  split at hh
  · exact shown_of_bracketed? hh
  · split at hh
    next => cases hh
    next => cases hh
    next name hne hname =>
      split at hh
      · split at hh
        next n _ =>
          cases hh
          exact shown_ipv4Text n
        next => cases hh
      · cases hh
        exact shown_of_asciiDomain? hname hne

theorem Host.shown_of_parseOpaque {cs : List Char} {h : Host} (hne : cs ≠ [])
    (hh : Host.parseOpaque cs = .ok h) : Shown h.text := by
  unfold Host.parseOpaque at hh
  split at hh
  · exact shown_of_bracketed? hh
  · split at hh
    next => cases hh
    next hallowed =>
      cases hh
      exact shown_percentEncode hne (Bool.eq_false_iff.mpr hallowed)

/-! ### The host of an address -/

def Authority.HostShown (a : Authority) : Prop := ∀ h, a.host = some h → Shown h.text

def HostShown (u : Url) : Prop := ∀ h, u.host? = some h → Shown h.text

/-- A host is read by the rules of its scheme. -/
def readHost (scheme written : List Char) : Except ParseError Host :=
  if isSpecial scheme then Host.parse written else Host.parseOpaque written

theorem shown_of_readHost {scheme written : List Char} {host : Host} (hne : written ≠ [])
    (h : readHost scheme written = .ok host) : Shown host.text := by
  unfold readHost at h
  split at h
  · exact Host.shown_of_parse h
  · exact Host.shown_of_parseOpaque hne h

theorem host_of_hostAndPort {scheme username password cs rest : List Char} {a : Authority}
    (h : hostAndPort scheme username password cs = .ok (a, rest)) :
    ∃ written host, readHost scheme written = .ok host ∧
      a.host = if written.isEmpty then none else some host := by
  unfold hostAndPort at h
  dsimp only at h
  generalize hostPart false _ = written at h
  split at h
  · cases h
  · -- The port is read in the same way behind both kinds of host.
    rw [← apply_ite fun read : Except ParseError Host =>
      read >>= (_ : Host → Except ParseError (Authority × List Char))] at h
    obtain ⟨host, hread, h⟩ := bind_eq_ok.mp h
    refine ⟨written, host, hread, ?_⟩
    split at h <;> obtain ⟨port, _, h⟩ := bind_eq_ok.mp h <;> cases eq_of_guarded h <;> rfl

theorem hostShown_of_hostAndPort {scheme username password cs rest : List Char} {a : Authority}
    (h : hostAndPort scheme username password cs = .ok (a, rest)) : a.HostShown := by
  obtain ⟨written, host, hread, ha⟩ := host_of_hostAndPort h
  intro shown hshown
  rw [ha] at hshown
  split at hshown
  · cases hshown
  next hne =>
    cases Option.some.inj hshown
    exact shown_of_readHost (fun he => hne (by rw [he]; rfl)) hread

theorem hostShown_of_authorityOf {scheme cs rest : List Char} {a : Authority}
    (h : authorityOf scheme cs = .ok (a, rest)) : a.HostShown := by
  unfold authorityOf at h
  dsimp only at h
  split at h
  · exact hostShown_of_hostAndPort h
  · exact hostShown_of_hostAndPort (ite_error_eq_ok.mp h).2

theorem host?_withTail (u : Url) (cs : List Char) : (withTail u cs).host? = u.host? := rfl

theorem hostShown_of_afterSlashes {scheme cs : List Char} {u : Url}
    (h : afterSlashes scheme cs = .ok u) : HostShown u := by
  obtain ⟨⟨a, rest⟩, hauthority, h⟩ := bind_eq_ok.mp h
  cases h
  exact hostShown_of_authorityOf hauthority

theorem hostShown_of_fileAfterSlashes {cs : List Char} {u : Url}
    (h : fileAfterSlashes cs = .ok u) : HostShown u := by
  unfold fileAfterSlashes at h
  dsimp only at h
  split at h
  · cases h
    intro host hhost
    cases hhost
  · obtain ⟨read, hread, h⟩ := bind_eq_ok.mp h
    cases h
    intro host hhost
    rw [host?_withTail] at hhost
    change (if _ then none else some read) = some host at hhost
    split at hhost
    · cases hhost
    · cases Option.some.inj hhost
      exact Host.shown_of_parse hread

theorem hostShown_of_afterScheme {scheme cs : List Char} {u : Url}
    (h : afterScheme scheme cs = .ok u) : HostShown u := by
  have hnone : ∀ {v : Url} {tail : List Char}, v.host? = none → HostShown (withTail v tail) := by
    intro v tail hv host hhost
    rw [host?_withTail, hv] at hhost
    cases hhost
  unfold afterScheme at h
  split at h
  · split at h
    · exact hostShown_of_fileAfterSlashes h
    · cases h
      exact hnone rfl
  · split at h
    · exact hostShown_of_afterSlashes h
    · split at h
      · exact hostShown_of_afterSlashes h
      · cases h
        exact hnone rfl
      · cases h
        exact hnone rfl

/-- A host that is read of an address is not blank. -/
theorem host_of_parse {text : String} {u : Url} (h : Url.parse text = .ok u) : HostShown u := by
  unfold parse resolve at h
  dsimp only at h
  split at h
  next scheme rest _ => exact hostShown_of_afterScheme h
  next => cases h

end Url

end Gleaner
