import ClusterAudit.Proofs.Text.Bytes
import ClusterAudit.Proofs.Text.Decoding
import ClusterAudit.Proofs.Text.Pieces
import ClusterAudit.Url.Percent

/-!
# Percent encoding read back

What is encoded for some part of an address decodes to the bytes that it had, whatever else the
part does not let stand, as long as it does not let a percent sign stand
(`ClusterAudit.Url.decode_encode`). So it can stand there in the place of the text: different texts
stay different, and nothing that the part keeps out occurs in it (`ClusterAudit.Url.notMem_encode`).

Forms have a second escape, the plus sign for a space. The pluses are turned back before anything is
decoded, so the plus signs of the text itself have to be encoded, and they are. Of the separators
between fields and between a name and its value none is left, so the fields of a form are read back
one by one (`ClusterAudit.Url.formFields_field`), and in a longer form each by itself
(`ClusterAudit.Url.formFields_append_cons`).
-/

namespace ClusterAudit.Url

open Text

variable {set : Char → Bool} {c d : Char} {b : UInt8}

/-! ### Digits -/

theorem hexValue_hexDigitUpper {n : Nat} (h : n < 16) : hexValue (hexDigitUpper n) = some n := by
  have hall : ∀ n < 16, hexValue (hexDigitUpper n) = some n := by decide
  exact hall n h

theorem percentByte_eq (b : UInt8) :
    percentByte b = ['%', hexDigitUpper (b.toNat / 16), hexDigitUpper (b.toNat % 16)] := by
  have hbound := b.toNat_lt
  have hhigh : b.toNat / 16 % 16 = b.toNat / 16 := by omega
  rw [← hhigh]
  rfl

/-- There is nothing but digits behind the percent sign. -/
theorem mem_percentByte (h : c ∈ percentByte b) : c = '%' ∨ ∃ n < 16, c = hexDigitUpper n := by
  have hbound := b.toNat_lt
  rw [percentByte_eq, List.mem_cons, List.mem_cons, List.mem_singleton] at h
  rcases h with h | h | h
  · exact .inl h
  · exact .inr ⟨b.toNat / 16, by omega, h⟩
  · exact .inr ⟨b.toNat % 16, by omega, h⟩

theorem notMem_percentByte (hpercent : d ≠ '%') (hdigit : hexValue d = none) (b : UInt8) :
    d ∉ percentByte b := by
  intro h
  rcases mem_percentByte h with rfl | ⟨n, hn, rfl⟩
  · exact hpercent rfl
  · rw [hexValue_hexDigitUpper hn] at hdigit
    cases hdigit

/-! ### Decoding -/

theorem decode_cons (h : c ≠ '%') (rest : List Char) :
    decode (c :: rest) = Utf8.encodeChar c ++ decode rest :=
  decode.eq_3 c rest fun _ _ _ hc => absurd hc h

theorem decode_percentByte (b : UInt8) (rest : List Char) :
    decode (percentByte b ++ rest) = b :: decode rest := by
  have hbound := b.toNat_lt
  have hbyte : b.toNat / 16 * 16 + b.toNat % 16 = b.toNat := by omega
  rw [percentByte_eq, List.cons_append, List.cons_append, List.cons_append, List.nil_append, decode,
    hexValue_hexDigitUpper (by omega), hexValue_hexDigitUpper (by omega)]
  dsimp only
  rw [hbyte, UInt8.ofNat_toNat]

theorem decode_flatMap_percentByte (bs : List UInt8) (rest : List Char) :
    decode (bs.flatMap percentByte ++ rest) = bs ++ decode rest := by
  induction bs with
  | nil => rfl
  | cons b bs ih =>
    rw [List.flatMap_cons, List.append_assoc, decode_percentByte, ih, List.cons_append]

theorem decode_encodeChar (hset : set '%' = true) (c : Char) (rest : List Char) :
    decode (encodeChar set c ++ rest) = Utf8.encodeChar c ++ decode rest := by
  rw [encodeChar]
  split
  · exact decode_flatMap_percentByte _ rest
  · rename_i hstays
    have hc : c ≠ '%' := by
      rintro rfl
      rw [hset, Bool.or_true] at hstays
      exact hstays rfl
    exact decode_cons hc rest

/-- **What is encoded decodes to the bytes of the text.** -/
theorem decode_encode (hset : set '%' = true) (cs : List Char) :
    decode (encode set cs) = Utf8.encode cs := by
  induction cs with
  | nil => rfl
  | cons c cs ih =>
    rw [encode, List.flatMap_cons, decode_encodeChar hset, ← encode, ih, Utf8.encode_cons]

/-- **Different texts are encoded differently.** -/
theorem encode_injective (hset : set '%' = true) {cs cs' : List Char}
    (h : encode set cs = encode set cs') : cs = cs' := by
  have hbytes := congrArg decode h
  rw [decode_encode hset, decode_encode hset] at hbytes
  exact Utf8.encode_injective hbytes

/-- What occurs where a text is encoded: percent signs, digits, and what may stand there. -/
theorem mem_encode {cs : List Char} (h : c ∈ encode set cs) :
    (∃ b, c ∈ percentByte b) ∨ c.toNat < 0x80 ∧ set c = false := by
  obtain ⟨a, -, ha⟩ := List.mem_flatMap.1 h
  rw [encodeChar] at ha
  split at ha
  · obtain ⟨b, -, hb⟩ := List.mem_flatMap.1 ha
    exact .inl ⟨b, hb⟩
  · rename_i hstays
    rw [List.mem_singleton.1 ha]
    exact .inr (by simpa using hstays)

/-- **What has to be encoded does not occur any more**, unless it is needed for encoding. -/
theorem notMem_encode (hset : set d = true) (hpercent : d ≠ '%') (hdigit : hexValue d = none)
    (cs : List Char) : d ∉ encode set cs := by
  intro h
  rcases mem_encode h with ⟨b, hb⟩ | ⟨-, hfree⟩
  · exact notMem_percentByte hpercent hdigit b hb
  · rw [hset] at hfree
    cases hfree

theorem encode_eq_self {cs : List Char} (h : ∀ c ∈ cs, c.toNat < 0x80 ∧ set c = false) :
    encode set cs = cs := by
  induction cs with
  | nil => rfl
  | cons c cs ih =>
    obtain ⟨hascii, hfree⟩ := h c List.mem_cons_self
    have hstays : encodeChar set c = [c] := if_neg (by simpa [hfree] using hascii)
    rw [encode, List.flatMap_cons, hstays, ← encode, ih fun d hd => h d (List.mem_cons_of_mem c hd),
      List.singleton_append]

/-! ### Names and values in forms -/

/-- A plus sign in a form is a space. -/
def spaced (c : Char) : Char :=
  if c = '+' then ' ' else c

theorem formDecode_eq (cs : List Char) :
    formDecode cs = Utf8.decodeLossy (decode (cs.map spaced)) :=
  rfl

theorem map_spaced_percentByte (b : UInt8) : (percentByte b).map spaced = percentByte b := by
  refine (List.map_congr_left fun c hc => ?_).trans (List.map_id _)
  have hplus : c ≠ '+' := by
    rintro rfl
    exact notMem_percentByte (by decide) (by decide) b hc
  rw [spaced, if_neg hplus, id]

theorem toNat_lt_of_isAlphanum (h : c.isAlphanum = true) : c.toNat < 0x80 := by
  have hranges : (decide ('A'.val ≤ c.val ∧ c.val ≤ 'Z'.val) ||
      ('a'.val ≤ c.val && c.val ≤ 'z'.val) || ('0'.val ≤ c.val && c.val ≤ '9'.val)) = true := h
  simp only [UInt32.le_iff_toNat_le, Bool.or_eq_true, Bool.and_eq_true, decide_eq_true_eq,
    Char.reduceVal, UInt32.reduceToNat] at hranges
  have htoNat : c.toNat = c.val.toNat := rfl
  omega

/-- What stands in a form as it is has a single byte and is none of the signs with a meaning. -/
theorem of_isFormSafe (h : isFormSafe b = true) :
    Utf8.encodeChar (Char.ofNat b.toNat) = [b] ∧
      ∀ sign ∈ ['%', '+', '&', '='], Char.ofNat b.toNat ≠ sign := by
  have hbound := b.toNat_lt
  have hvalid : b.toNat.isValidChar := .inl (by omega)
  have htoNat : (Char.ofNat b.toNat).toNat = b.toNat := by
    rw [Char.ofNat, dif_pos hvalid]
    rfl
  rw [isFormSafe] at h
  generalize Char.ofNat b.toNat = c at h htoNat
  constructor
  · have hascii : c.toNat < 0x80 := by
      simp only [Bool.or_eq_true, decide_eq_true_eq] at h
      rcases h with (((h | rfl) | rfl) | rfl) | rfl
      · exact toNat_lt_of_isAlphanum h
      all_goals decide
    rw [Utf8.encodeChar, if_pos hascii, htoNat, UInt8.ofNat_toNat]
  · rintro sign hsign rfl
    simp only [List.mem_cons, List.not_mem_nil, or_false] at hsign
    rcases hsign with rfl | rfl | rfl | rfl
    all_goals exact absurd h (by decide)

theorem decode_map_spaced_formByte (b : UInt8) (rest : List Char) :
    decode ((formByte b).map spaced ++ rest) = b :: decode rest := by
  rw [formByte]
  split
  · rename_i hspace
    rw [hspace]
    exact decode_cons (by decide) rest
  · split
    · rename_i hsafe
      obtain ⟨hbytes, hsign⟩ := of_isFormSafe hsafe
      rw [List.map_singleton, spaced, if_neg (hsign '+' (by decide)), List.singleton_append,
        decode_cons (hsign '%' (by decide)), hbytes, List.singleton_append]
    · rw [map_spaced_percentByte, decode_percentByte]

/-- **A text is read back from a form.** -/
theorem formDecode_formEncode (s : String) : formDecode (formEncode s) = s := by
  have hbytes (bs : List UInt8) : decode ((bs.flatMap formByte).map spaced) = bs := by
    induction bs with
    | nil => rfl
    | cons b bs ih => rw [List.flatMap_cons, List.map_append, decode_map_spaced_formByte, ih]
  rw [formDecode_eq, formEncode, hbytes, Utf8.decodeLossy_encode]

/-- No separator is left in what is written in a form. -/
theorem notMem_formEncode (hd : d = '&' ∨ d = '=') (s : String) : d ∉ formEncode s := by
  intro h
  obtain ⟨b, -, hb⟩ := List.mem_flatMap.1 h
  rw [formByte] at hb
  split at hb
  · rcases hd with rfl | rfl <;> exact absurd hb (by decide)
  · split at hb
    · rename_i hsafe
      exact (of_isFormSafe hsafe).2 d (by rcases hd with rfl | rfl <;> decide)
        (List.mem_singleton.1 hb).symm
    · rcases hd with rfl | rfl <;>
        exact notMem_percentByte (by decide) (by decide) b hb

/-! ### Fields of forms -/

/-- **A field is read back**, with its name and its value. -/
theorem formFields_field (name value : String) :
    formFields (formEncode name ++ '=' :: formEncode value) = [(name, value)] := by
  have hamp : '&' ∉ formEncode name ++ '=' :: formEncode value := by
    rw [List.mem_append, List.mem_cons]
    rintro (h | h | h)
    · exact notMem_formEncode (.inl rfl) name h
    · exact absurd h (by decide)
    · exact notMem_formEncode (.inl rfl) value h
  have hne : (formEncode name ++ '=' :: formEncode value).isEmpty = false := by
    cases formEncode name <;> rfl
  rw [formFields, pieces_of_notMem hamp, List.filter_cons_of_pos (by rw [hne]; rfl),
    List.filter_nil, List.map_singleton, cut_append_cons (notMem_formEncode (.inr rfl) name)]
  dsimp only
  rw [formDecode_formEncode, formDecode_formEncode]

/-- The fields on both sides of an ampersand have nothing to do with each other. -/
theorem formFields_append_cons (l m : List Char) :
    formFields (l ++ '&' :: m) = formFields l ++ formFields m := by
  rw [formFields, pieces_append_cons, List.filter_append, List.map_append]
  rfl

/-- **The fields of forms in a row** are those of one after the other. -/
theorem formFields_join (l : List String) :
    formFields (join "&" l).toList = l.flatMap fun s => formFields s.toList := by
  induction l using join.induct with
  | case1 => rfl
  | case2 s => rw [join, List.flatMap_singleton]
  | case3 s t rest ih =>
    have htoList : (join "&" (s :: t :: rest)).toList =
        s.toList ++ '&' :: (join "&" (t :: rest)).toList := by
      rw [join, String.toList_append, String.toList_append, List.append_assoc]
      rfl
    rw [htoList, formFields_append_cons, ih]
    rfl

end ClusterAudit.Url
