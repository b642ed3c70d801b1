import Gleaner.Charset.Body
import Gleaner.Proofs.Charset.Utf8

/-!
Bodies that read as they were written. Text in UTF-8 that is not declared to be anything else reads
as itself, whatever statistics suggest (`bodyText_encode`). ASCII reads as itself in all charsets
that extend it (`bodyText_ascii`).
-/
namespace Gleaner

open Utf8 (encode encodeChar)

namespace Utf8

theorem decodeChar_of_encodeChar {a : Nat} {bs rest : List Nat} {c : Char}
    (h : encodeChar c ++ rest = a :: bs) : (decodeChar a bs).1 = c := by
  have hdecode := decode_encodeChar c rest
  rw [h, decode_cons] at hdecode
  exact (List.cons.inj hdecode).1

theorem isWellFormed_iff {bs : List Nat} : isWellFormed bs = true ↔ ∃ cs, bs = encode cs := by
  unfold isWellFormed
  rw [beq_iff_eq]
  constructor
  · exact fun h => ⟨decode bs, h.symm⟩
  · rintro ⟨cs, rfl⟩
    rw [decode_encode]

/-- A character beyond ASCII has no byte of ASCII. -/
theorem eq_of_mem_encodeChar {b : Nat} {c : Char} (hb : b < 0x80) (h : b ∈ encodeChar c) :
    b = c.toNat := by
  unfold encodeChar at h
  dsimp only at h
  repeat' split at h
  all_goals
    simp only [List.mem_cons, List.not_mem_nil, or_false] at h
    omega

theorem mem_of_mem_encode {b : Nat} {cs : List Char} (hb : b < 0x80) (h : b ∈ encode cs) :
    Char.ofNat b ∈ cs := by
  obtain ⟨c, hc, hbc⟩ := List.mem_flatMap.mp h
  rwa [eq_of_mem_encodeChar hb hbc, Char.ofNat_toNat]

end Utf8

namespace Charset

theorem isIso2022Jp_of_not_mem {bs : List Nat} (h : 0x1b ∉ bs) : isIso2022Jp bs = false := by
  simp [isIso2022Jp, h]

/-- The only character whose bytes are a mark is U+FEFF. -/
theorem marked?_encodeChar {c : Char} (h : c ≠ '\ufeff') (rest : List Nat) :
    marked? (encodeChar c ++ rest) = none := by
  -- no character starts with the bytes that UTF-8 never has
  have hnever : ∀ a bs, a = 0xff ∨ a = 0xfe → encodeChar c ++ rest ≠ a :: bs := by
    rintro a bs ha heq
    have hc : c = Utf8.replacement := by
      rw [← Utf8.decodeChar_of_encodeChar heq]
      rcases ha with rfl | rfl <;> rfl
    subst hc
    rcases ha with rfl | rfl <;> cases heq
  generalize hbs : encodeChar c ++ rest = bs at hnever ⊢
  unfold marked?
  split
  next => exact absurd (Utf8.decodeChar_of_encodeChar hbs).symm h
  next => exact absurd rfl (hnever _ _ (Or.inl rfl))
  next => exact absurd rfl (hnever _ _ (Or.inr rfl))
  next => rfl

theorem detected_of_isWellFormed {bs : List Nat} (hescape : 0x1b ∉ bs)
    (h : Utf8.isWellFormed bs = true) (suggested : Charset) : detected suggested bs = utf8 := by
  simp [detected, isIso2022Jp_of_not_mem hescape, h]

theorem marked?_encode {cs : List Char} (h : cs.head? ≠ some '\ufeff') :
    marked? (encode cs) = none := by
  cases cs with
  | nil => rfl
  | cons c cs => exact marked?_encodeChar (fun hc => h (congrArg some hc)) (encode cs)

/-- Text in UTF-8 reads as itself unless it starts with a mark, has escapes, or is declared to be
something else. -/
theorem bodyText_encode {cs : List Char} (hmark : cs.head? ≠ some '\ufeff') (hescape : '\x1b' ∉ cs)
    {contentType : Option String} (h : ∀ c, declared? contentType = some c → c = utf8)
    (suggested : Charset) : bodyText suggested contentType (encode cs) = String.ofList cs := by
  have hbyte : 0x1b ∉ encode cs := fun hmem => hescape (Utf8.mem_of_mem_encode (by decide) hmem)
  have hwell : Utf8.isWellFormed (encode cs) = true := Utf8.isWellFormed_iff.mpr ⟨cs, rfl⟩
  have hcharset : (declared? contentType).getD (detected suggested (encode cs)) = utf8 := by
    cases hc : declared? contentType with
    | none => exact detected_of_isWellFormed hbyte hwell suggested
    | some c => exact h c hc
  rw [bodyText, marked?_encode hmark]
  dsimp only
  rw [hcharset, decode, Utf8.decode_encode]

/-! ### ASCII -/

def ExtendsAscii : Charset → Prop
  | utf16 _ | iso2022Jp | unread => False
  | _ => True

theorem eq_map_of_ascii {decoded : List Nat → List Char} (hnil : decoded [] = [])
    (hcons : ∀ b < 0x80, ∀ bs, decoded (b :: bs) = Char.ofNat b :: decoded bs) {bs : List Nat}
    (h : ∀ b ∈ bs, b < 0x80) : decoded bs = bs.map Char.ofNat := by
  induction bs with
  | nil => exact hnil
  | cons b bs ih =>
    obtain ⟨hb, hbs⟩ := List.forall_mem_cons.mp h
    rw [hcons b hb, ih hbs, List.map_cons]

theorem decode_cons_of_single {c : Pairs} {b : Nat} {ch : Char} (h : c.single? b = some ch)
    (bs : List Nat) : c.decode (b :: bs) = ch :: c.decode bs := by
  rw [Pairs.decode.eq_def]
  dsimp only
  rw [h]

theorem decodeGb_cons_of_ascii {b : Nat} (h : b < 0x80) (bs : List Nat) :
    decodeGb (b :: bs) = Char.ofNat b :: decodeGb bs := by
  rw [decodeGb.eq_def]
  exact if_pos h

theorem decodeEucJp_cons_of_ascii {b : Nat} (h : b < 0x80) (bs : List Nat) :
    decodeEucJp (b :: bs) = Char.ofNat b :: decodeEucJp bs := by
  rw [decodeEucJp.eq_def]
  exact if_pos h

theorem decode_ascii {c : Charset} (hc : c.ExtendsAscii) {bs : List Nat}
    (h : ∀ b ∈ bs, b < 0x80) : c.decode bs = bs.map Char.ofNat := by
  have hascii : ∀ b < 0x80, ascii? b = some (Char.ofNat b) := fun b hb => if_pos hb
  cases c with
  | utf8 => exact eq_map_of_ascii Utf8.decode_nil (fun _ hb => Utf8.decode_cons_of_ascii hb) h
  | singleByte upper => exact List.map_congr_left fun b hb => if_pos (h b hb)
  | gb18030 => exact eq_map_of_ascii rfl (fun _ hb => decodeGb_cons_of_ascii hb) h
  | big5 => exact eq_map_of_ascii rfl (fun b hb => decode_cons_of_single (hascii b hb)) h
  | eucKr => exact eq_map_of_ascii rfl (fun b hb => decode_cons_of_single (hascii b hb)) h
  | shiftJis =>
    exact eq_map_of_ascii rfl (fun b hb => decode_cons_of_single (if_pos (Nat.le_of_lt hb))) h
  | eucJp => exact eq_map_of_ascii rfl (fun _ hb => decodeEucJp_cons_of_ascii hb) h
  | utf16 _ => exact hc.elim
  | iso2022Jp => exact hc.elim
  | unread => exact hc.elim

theorem encode_map_ascii {bs : List Nat} (h : ∀ b ∈ bs, b < 0x80) :
    encode (bs.map Char.ofNat) = bs := by
  induction bs with
  | nil => rfl
  | cons b bs ih =>
    obtain ⟨hb, hbs⟩ := List.forall_mem_cons.mp h
    have hnat : (Char.ofNat b).toNat = b := Utf8.toNat_ofNat hb
    rw [List.map_cons, encode, List.flatMap_cons, Utf8.encodeChar_of_ascii (hnat.symm ▸ hb), hnat]
    exact congrArg (b :: ·) (ih hbs)

/-- A body in ASCII without escapes reads as itself, whichever charset it is declared to be in, if
that extends ASCII. -/
theorem bodyText_ascii {bs : List Nat} (h : ∀ b ∈ bs, b < 0x80) (hescape : 0x1b ∉ bs)
    {contentType : Option String} (hc : ∀ c, declared? contentType = some c → c.ExtendsAscii)
    (suggested : Charset) :
    bodyText suggested contentType bs = String.ofList (bs.map Char.ofNat) := by
  have hmarked : marked? bs = none := by
    unfold marked?
    split
    next => exact absurd (h 0xef List.mem_cons_self) (by decide)
    next => exact absurd (h 0xff List.mem_cons_self) (by decide)
    next => exact absurd (h 0xfe List.mem_cons_self) (by decide)
    next => rfl
  have hwell : Utf8.isWellFormed bs = true :=
    Utf8.isWellFormed_iff.mpr ⟨_, (encode_map_ascii h).symm⟩
  have hcharset : ((declared? contentType).getD (detected suggested bs)).ExtendsAscii := by
    cases hd : declared? contentType with
    | none =>
      rw [Option.getD_none, detected_of_isWellFormed hescape hwell]
      trivial
    | some c => exact hc c hd
  rw [bodyText, hmarked]
  dsimp only
  rw [decode_ascii hcharset h]

end Charset

end Gleaner
