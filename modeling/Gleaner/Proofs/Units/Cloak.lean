import Gleaner.Proofs.Text.Letter
import Gleaner.Units.Cloak

/-!
Cloaked addresses as they are written. What the hexadecimal digits of a key and of every character
under it write is uncovered again (`decode_cloaked`). A plus sign is taken for a zero in front of a
digit, so that not only hexadecimal texts are read (`decode_eq`).
-/
namespace Gleaner.Cloak

/-! ### Bytes as written -/

/-- The hexadecimal digits of a value, in either case. -/
def digitForms (n : ℕ) : List Char := [n.digitChar, n.digitChar.toUpper]

/-- What is taken for the first digit of a byte. -/
def leadForms (n : ℕ) : List Char := digitForms n ++ if n = 0 then ['+'] else []

/-- Bytes written by two characters each, the first one of the given forms. -/
inductive Writes (lead : ℕ → List Char) : List ℕ → List Char → Prop
  | nil : Writes lead [] []
  | cons {n : ℕ} {a b : Char} {ns : List ℕ} {cs : List Char} (hn : n < 256)
      (ha : a ∈ lead (n / 16)) (hb : b ∈ digitForms (n % 16)) (hrest : Writes lead ns cs) :
      Writes lead (n :: ns) (a :: b :: cs)

def hexDigits : List Char := "0123456789abcdefABCDEF".toList

/-- Hexadecimal digits in pairs, at least one. -/
def IsHex (cs : List Char) : Prop := cs ≠ [] ∧ cs.length % 2 = 0 ∧ ∀ c ∈ cs, c ∈ hexDigits

theorem hexValue?_of_mem {n : ℕ} (hn : n < 16) {c : Char} (hc : c ∈ digitForms n) :
    Text.hexValue? c = some n := by
  have hall : ∀ n < 16, (digitForms n).all fun c => Text.hexValue? c = some n := by decide
  exact List.all_iff_forall_prop.mp (hall n hn) c hc

theorem mem_hexDigits {n : ℕ} (hn : n < 16) {c : Char} (hc : c ∈ digitForms n) :
    c ∈ hexDigits := by
  have hall : ∀ n < 16, (digitForms n).all fun c => c ∈ hexDigits := by decide
  exact List.all_iff_forall_prop.mp (hall n hn) c hc

theorem isBlank_of_mem_hexDigits {c : Char} (hc : c ∈ hexDigits) : Text.isBlank c = false := by
  have hall : hexDigits.all fun c => Text.isBlank c = false := by decide
  exact List.all_iff_forall_prop.mp hall c hc

theorem toNat_lt_of_hexValue? {c : Char} {n : ℕ} (h : Text.hexValue? c = some n) :
    c.toNat < 128 := by
  have hbound : ∀ {d : Char}, c ≤ d → d.toNat < 128 → c.toNat < 128 := fun hle hd =>
    (UInt32.le_iff_toNat_le.mp hle).trans_lt hd
  unfold Text.hexValue? at h
  split at h
  next hdigit => exact hbound (of_decide_eq_true (Bool.and_eq_true_iff.mp hdigit).2) (by decide)
  split at h
  next hlower => exact hbound (of_decide_eq_true (Bool.and_eq_true_iff.mp hlower).2) (by decide)
  split at h
  next hupper => exact hbound (of_decide_eq_true (Bool.and_eq_true_iff.mp hupper).2) (by decide)
  next => cases h

theorem hexValue?_eq_some_iff {c : Char} {n : ℕ} :
    Text.hexValue? c = some n ↔ n < 16 ∧ c ∈ digitForms n := by
  constructor
  · intro h
    have hall : (List.range 128).all fun code => (Text.hexValue? (Char.ofNat code)).all fun n =>
        n < 16 ∧ Char.ofNat code ∈ digitForms n := by decide +kernel
    have hcode := List.all_eq_true.mp hall c.toNat (List.mem_range.mpr (toNat_lt_of_hexValue? h))
    rw [Char.ofNat_toNat, h, Option.all_some, decide_eq_true_eq] at hcode
    exact hcode
  · rintro ⟨hn, hc⟩
    exact hexValue?_of_mem hn hc

theorem byte?_eq_some_iff {a b : Char} {n : ℕ} :
    byte? a b = some n ↔ n < 256 ∧ a ∈ leadForms (n / 16) ∧ b ∈ digitForms (n % 16) := by
  constructor
  · intro h
    unfold byte? at h
    split at h
    next => cases h
    next low hlow =>
      obtain ⟨hlt, hb⟩ := hexValue?_eq_some_iff.mp hlow
      split at h
      next hplus =>
        obtain rfl : low = n := Option.some.inj h
        have hhigh : low / 16 = 0 := by omega
        have hrest : low % 16 = low := by omega
        rw [hhigh, hrest]
        exact ⟨by omega, List.mem_append_right _ (List.mem_singleton.mpr hplus), hb⟩
      next =>
        obtain ⟨high, hhigh, rfl⟩ := Option.map_eq_some_iff.mp h
        obtain ⟨hlt', ha⟩ := hexValue?_eq_some_iff.mp hhigh
        have hdiv : (16 * high + low) / 16 = high := by omega
        have hmod : (16 * high + low) % 16 = low := by omega
        rw [hdiv, hmod]
        exact ⟨by omega, List.mem_append_left _ ha, hb⟩
  · rintro ⟨hn, ha, hb⟩
    have hlow : Text.hexValue? b = some (n % 16) := hexValue?_of_mem (by omega) hb
    unfold byte?
    rw [hlow]
    dsimp only
    rcases List.mem_append.mp ha with ha | ha
    · have hhigh : Text.hexValue? a = some (n / 16) := hexValue?_of_mem (by omega) ha
      have hplus : a ≠ '+' := by
        rintro rfl
        cases hhigh
      rw [if_neg hplus, hhigh, Option.map_some, Nat.div_add_mod]
    · split at ha
      next hzero =>
        rw [if_pos (List.mem_singleton.mp ha)]
        congr 1
        omega
      next => cases ha

theorem bytes?_of_writes {ns : List ℕ} {cs : List Char} (h : Writes leadForms ns cs) :
    bytes? cs = some ns := by
  induction h with
  | nil => rfl
  | cons hn ha hb hrest ih => rw [bytes?, byte?_eq_some_iff.mpr ⟨hn, ha, hb⟩, ih]

theorem writes_of_bytes? {ns : List ℕ} {cs : List Char} (h : bytes? cs = some ns) :
    Writes leadForms ns cs := by
  fun_induction bytes? cs generalizing ns with
  | case1 =>
    cases h
    exact .nil
  | case2 => cases h
  | case3 a b rest n ns' hns hn ih =>
    cases h
    obtain ⟨hlt, ha, hb⟩ := byte?_eq_some_iff.mp hn
    exact .cons hlt ha hb (ih hns)
  | case4 => cases h

theorem Writes.mono {lead lead' : ℕ → List Char} (hlead : ∀ n, lead n ⊆ lead' n) {ns : List ℕ}
    {cs : List Char} (h : Writes lead ns cs) : Writes lead' ns cs := by
  induction h with
  | nil => exact .nil
  | cons hn ha hb hrest ih => exact .cons hn (hlead _ ha) hb ih

/-! ### What is uncovered -/

theorem decode_of_writes {text : String} {ns : List ℕ}
    (h : Writes leadForms ns (Text.trim text.toList)) :
    decode text = String.ofList (uncover ns) := by
  rw [decode, bytes?_of_writes h]

theorem Writes.digits {ns : List ℕ} {cs : List Char} (h : Writes digitForms ns cs) :
    cs.length % 2 = 0 ∧ ∀ c ∈ cs, c ∈ hexDigits := by
  induction h with
  | nil => exact ⟨rfl, List.forall_mem_nil _⟩
  | @cons n a b ns cs hn ha hb hrest ih =>
    have hhigh := mem_hexDigits (by omega) ha
    have hlow := mem_hexDigits (by omega) hb
    rw [List.length_cons, List.length_cons, Nat.add_assoc, Nat.add_mod_right]
    exact ⟨ih.1, List.forall_mem_cons.mpr ⟨hhigh, List.forall_mem_cons.mpr ⟨hlow, ih.2⟩⟩⟩

theorem Writes.isHex {n : ℕ} {ns : List ℕ} {cs : List Char}
    (h : Writes digitForms (n :: ns) cs) : IsHex cs := by
  refine ⟨?_, h.digits⟩
  rintro rfl
  cases h

theorem trim_of_isHex {cs : List Char} (h : IsHex cs) : Text.trim cs = cs := by
  have hshown : ∀ c ∈ cs, Text.isBlank c = false := fun c hc =>
    isBlank_of_mem_hexDigits (h.2.2 c hc)
  exact Text.trim_eq_self_iff.mpr ⟨fun c hc => hshown c (List.mem_of_mem_head? hc),
    fun c hc => hshown c (List.mem_of_getLast? hc)⟩

theorem uncover_covered {key : ℕ} {cs : List Char} :
    uncover (key :: cs.map fun c => c.toNat ^^^ key) = cs := by
  rw [uncover, List.map_map]
  refine (List.map_congr_left fun c _ => ?_).trans (List.map_id cs)
  rw [Function.comp_apply, Nat.xor_xor_cancel_right, Char.ofNat_toNat]
  rfl

/-- The bytes in two lower-case hexadecimal digits each. -/
def hexText (ns : List ℕ) : List Char :=
  ns.flatMap fun n => [(n / 16).digitChar, (n % 16).digitChar]

theorem mem_digitForms {n : ℕ} (hn : n < 16) {c : Char} (h : c.toLower = n.digitChar.toLower) :
    c ∈ digitForms n := by
  have hforms : ∀ n < 16, n.digitChar.toLower.toNat = n.digitChar.toNat ∧
      n.digitChar.toNat = (if n < 10 then 48 + n else 87 + n) ∧
      n.digitChar.toUpper.toNat = (if n < 10 then 48 + n else 55 + n) := by decide +kernel
  obtain ⟨hsame, hlower, hupper⟩ := hforms n hn
  have hcode := Text.toNat_toLower c
  rw [h, hsame, hlower] at hcode
  rw [digitForms, List.mem_cons, List.mem_singleton, ← Char.toNat_inj, ← Char.toNat_inj, hlower,
    hupper]
  split at hcode <;> split at hcode <;> split <;> omega

theorem writes_hexText {ns : List ℕ} (hns : ∀ n ∈ ns, n < 256) {cs : List Char}
    (h : Text.SameButCase cs (hexText ns)) : Writes digitForms ns cs := by
  induction ns generalizing cs with
  | nil =>
    obtain rfl : cs = [] := List.map_eq_nil_iff.mp h
    exact .nil
  | cons n ns ih =>
    obtain ⟨hn, hns⟩ := List.forall_mem_cons.mp hns
    obtain ⟨a, cs, rfl, ha, h⟩ := List.map_eq_cons_iff.mp h
    obtain ⟨b, cs, rfl, hb, h⟩ := List.map_eq_cons_iff.mp h
    exact .cons hn (mem_digitForms (by omega) ha) (mem_digitForms (by omega) hb) (ih hns h)

/-- Under whatever key, in digits of either case and among blanks, characters of one byte come back
as they were. -/
theorem decode_cloaked {key : ℕ} {address cloaked : String} {before code after : List Char}
    (hkey : key < 256) (haddress : ∀ c ∈ address.toList, c.toNat < 256)
    (hcode : Text.SameButCase code (hexText (key :: address.toList.map fun c => c.toNat ^^^ key)))
    (hbefore : ∀ c ∈ before, Text.isBlank c = true) (hafter : ∀ c ∈ after, Text.isBlank c = true)
    (htext : cloaked.toList = before ++ (code ++ after)) : decode cloaked = address := by
  have hbytes : ∀ n ∈ key :: address.toList.map fun c => c.toNat ^^^ key, n < 256 := by
    refine List.forall_mem_cons.mpr ⟨hkey, List.forall_mem_map.mpr fun c hc => ?_⟩
    exact Nat.xor_lt_two_pow (n := 8) (haddress c hc) hkey
  have hwrites := writes_hexText hbytes hcode
  have hhex : IsHex code := hwrites.isHex
  have htrim : Text.trim cloaked.toList = code := by
    rw [htext]
    exact Text.trim_between hbefore hafter (trim_of_isHex hhex) hhex.1
  have hread : Writes leadForms _ code :=
    hwrites.mono fun n => List.subset_append_left (digitForms n) _
  rw [← htrim] at hread
  rw [decode_of_writes hread, uncover_covered, String.ofList_toList]

theorem decode_cloaked_mixed_case :
    Text.SameButCase "422302206C21".toList
        (hexText (0x42 :: "a@b.c".toList.map fun c => c.toNat ^^^ 0x42)) ∧
      decode " 422302206C21\n" = "a@b.c" := by
  have hcode : Text.SameButCase "422302206C21".toList
      (hexText (0x42 :: "a@b.c".toList.map fun c => c.toNat ^^^ 0x42)) := by decide +kernel
  have haddress : ∀ c ∈ "a@b.c".toList, c.toNat < 256 :=
    List.all_iff_forall_prop.mp (by decide)
  have hspace : ∀ c ∈ [' '], Text.isBlank c = true := List.forall_mem_singleton.mpr rfl
  have hline : ∀ c ∈ ['\n'], Text.isBlank c = true := List.forall_mem_singleton.mpr rfl
  exact ⟨hcode, decode_cloaked (by decide) haddress hcode hspace hline (by decide)⟩

/-! ### What is refused -/

/-- Without a plus sign where a byte starts, only hexadecimal digits are read. -/
theorem Writes.of_no_plus {ns : List ℕ} {cs : List Char} (h : Writes leadForms ns cs)
    (hplus : ∀ k, cs[2 * k]? ≠ some '+') : Writes digitForms ns cs := by
  induction h with
  | nil => exact .nil
  | @cons n a b ns cs hn ha hb hrest ih =>
    have hfirst : a ∈ digitForms (n / 16) := by
      rcases List.mem_append.mp ha with ha | ha
      · exact ha
      · split at ha
        next => exact absurd (congrArg some (List.mem_singleton.mp ha)) (hplus 0)
        next => cases ha
    exact .cons hn hfirst hb (ih fun k => hplus (k + 1))

/-- Just the texts of bytes are read, a plus sign for a leading zero. Of those that are not
hexadecimal, then, only ones with a plus sign in such a place. -/
theorem decode_eq (text : String) :
    (∀ key bytes, Writes leadForms (key :: bytes) (Text.trim text.toList) →
      decode text = String.ofList (bytes.map fun b => Char.ofNat (b ^^^ key))) ∧
    ((∀ key bytes, ¬Writes leadForms (key :: bytes) (Text.trim text.toList)) → decode text = "") ∧
    (¬IsHex (Text.trim text.toList) → (∀ k, (Text.trim text.toList)[2 * k]? ≠ some '+') →
      decode text = "") := by
  have hrefused : (∀ key bytes, ¬Writes leadForms (key :: bytes) (Text.trim text.toList)) →
      decode text = "" := by
    intro hnone
    unfold decode
    split
    next bytes hbytes =>
      have hwrites := writes_of_bytes? hbytes
      cases bytes with
      | nil => rfl
      | cons key bytes => exact absurd hwrites (hnone key bytes)
    next => rfl
  refine ⟨fun key bytes hwrites => decode_of_writes hwrites, hrefused, ?_⟩
  intro hhex hplus
  apply hrefused
  intro key bytes hwrites
  exact hhex (hwrites.of_no_plus hplus).isHex

/-- A digit behind a plus sign is read as a byte, though the text is not hexadecimal. -/
theorem not_refused_plus : ¬∀ text : String, ¬IsHex (Text.trim text.toList) → decode text = "" := by
  intro h
  have htrim : Text.trim "42+1".toList = "42+1".toList := by decide
  have hread : decode "42+1" = "C" := by decide
  have hhex : ¬IsHex (Text.trim "42+1".toList) := by
    rw [htrim]
    rintro ⟨-, -, hdigits⟩
    exact absurd (hdigits '+' (by decide)) (by decide)
  exact absurd (hread.symm.trans (h "42+1" hhex)) (by decide)

end Gleaner.Cloak
