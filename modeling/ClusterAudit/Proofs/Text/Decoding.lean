import ClusterAudit.Text.Utf8

/-!
# Reading bytes back

What is written as bytes can be read again, by the reader that refuses bytes which are no text and
by the one that replaces them: neither finds anything to complain about. Both take a character at a
time off the front, so all there is to show is that the bytes of a character are taken as this
character, whatever follows (`ClusterAudit.Utf8.decodeFirst_encodeChar`). The first byte says how
many belong to it. It also bounds the second one, which is to keep out characters that have fewer
bytes and numbers that are no characters, and this is where it matters that a character is neither.
-/

namespace ClusterAudit.Utf8

/-! ### One character -/

theorem toNat_ofNat {n : Nat} (h : n < 256) : (UInt8.ofNat n).toNat = n := by
  rw [UInt8.toNat_ofNat', Nat.mod_eq_of_lt h]

/-- A byte in the range of the next one adds its six bits. -/
theorem tail_ofNat {more low high bits x read : Nat} (bs : List UInt8) (hx : x < 64)
    (hlow : low ≤ 0x80 + x) (hhigh : 0x80 + x ≤ high) :
    tail (more + 1) low high bits (UInt8.ofNat (0x80 + x) :: bs) read =
      tail more 0x80 0xBF (bits * 64 + x) bs (read + 1) := by
  have hbyte : (UInt8.ofNat (0x80 + x)).toNat = 0x80 + x := toNat_ofNat (by omega)
  have hbits : (0x80 + x) % 64 = x := by omega
  rw [tail, hbyte, if_pos ⟨hlow, hhigh⟩, hbits]

theorem lead_one {n : Nat} (h : n < 0x80) : lead (UInt8.ofNat n) = some (0, 0, 0, n) := by
  simp (disch := omega) only [lead, toNat_ofNat, if_pos]

theorem lead_two {x : Nat} (hlow : 2 ≤ x) (hhigh : x < 32) :
    lead (UInt8.ofNat (0xC0 + x)) = some (1, 0x80, 0xBF, x) := by
  simp (disch := omega) only [lead, toNat_ofNat, if_pos, if_neg, Nat.add_sub_cancel_left]

/-- The first of three bytes. Its bounds hold for the second one, `y`, unless the two begin a
character of two bytes or one of the numbers that are none. -/
theorem lead_three {x y : Nat} (hx : x < 16) (hy : y < 64) (hlong : x = 0 → 32 ≤ y)
    (hvalid : x = 13 → y < 32) :
    ∃ low high, lead (UInt8.ofNat (0xE0 + x)) = some (2, low, high, x) ∧
      low ≤ 0x80 + y ∧ 0x80 + y ≤ high := by
  by_cases hzero : x = 0
  · refine ⟨0xA0, 0xBF, ?_, by omega, by omega⟩
    rw [hzero]
    rfl
  · by_cases hthirteen : x = 13
    · refine ⟨0x80, 0x9F, ?_, by omega, by omega⟩
      rw [hthirteen]
      rfl
    · refine ⟨0x80, 0xBF, ?_, by omega, by omega⟩
      simp (disch := omega) only [lead, toNat_ofNat, if_pos, if_neg, Nat.add_sub_cancel_left]

/-- The first of four bytes, likewise. -/
theorem lead_four {x y : Nat} (hx : x ≤ 4) (hy : y < 64) (hlong : x = 0 → 16 ≤ y)
    (hvalid : x = 4 → y < 16) :
    ∃ low high, lead (UInt8.ofNat (0xF0 + x)) = some (3, low, high, x) ∧
      low ≤ 0x80 + y ∧ 0x80 + y ≤ high := by
  by_cases hzero : x = 0
  · refine ⟨0x90, 0xBF, ?_, by omega, by omega⟩
    rw [hzero]
    rfl
  · by_cases hfour : x = 4
    · refine ⟨0x80, 0x8F, ?_, by omega, by omega⟩
      rw [hfour]
      rfl
    · refine ⟨0x80, 0xBF, ?_, by omega, by omega⟩
      simp (disch := omega) only [lead, toNat_ofNat, if_pos, if_neg, Nat.add_sub_cancel_left]

/-- **The bytes of a character are taken as this character**, whatever follows. -/
theorem decodeFirst_encodeChar (c : Char) :
    ∃ b bs, encodeChar c = b :: bs ∧ ∀ rest, decodeFirst b (bs ++ rest) = .ok (c, rest) := by
  have hvalid : c.toNat < 0xD800 ∨ 0xDFFF < c.toNat ∧ c.toNat < 0x110000 := c.valid
  have hchar : Char.ofNat c.toNat = c := Char.ofNat_toNat c
  rw [encodeChar]
  generalize c.toNat = n at hvalid hchar
  subst hchar
  -- one byte, then two, three and four
  split
  next hone =>
    refine ⟨_, _, rfl, fun rest => ?_⟩
    rw [decodeFirst, lead_one hone]
    rfl
  next hone =>
    split
    next htwo =>
      refine ⟨_, _, rfl, fun rest => ?_⟩
      have hbits : n / 64 * 64 + n % 64 = n := by omega
      rw [decodeFirst, lead_two (by omega) (by omega), List.cons_append]
      dsimp only
      rw [tail_ofNat _ (by omega) (by omega) (by omega), hbits]
      rfl
    next htwo =>
      split
      next hthree =>
        refine ⟨_, _, rfl, fun rest => ?_⟩
        have hbits : (n / 4096 * 64 + n / 64 % 64) * 64 + n % 64 = n := by omega
        obtain ⟨low, high, hlead, hlow, hhigh⟩ :=
          lead_three (x := n / 4096) (y := n / 64 % 64) (by omega) (by omega) (by omega) (by omega)
        rw [decodeFirst, hlead, List.cons_append, List.cons_append]
        dsimp only
        rw [tail_ofNat _ (by omega) hlow hhigh, tail_ofNat _ (by omega) (by omega) (by omega),
          hbits]
        rfl
      next hthree =>
        refine ⟨_, _, rfl, fun rest => ?_⟩
        have hbits : ((n / 262144 * 64 + n / 4096 % 64) * 64 + n / 64 % 64) * 64 + n % 64 = n := by
          omega
        obtain ⟨low, high, hlead, hlow, hhigh⟩ :=
          lead_four (x := n / 262144) (y := n / 4096 % 64) (by omega) (by omega) (by omega)
            (by omega)
        rw [decodeFirst, hlead, List.cons_append, List.cons_append, List.cons_append]
        dsimp only
        rw [tail_ofNat _ (by omega) hlow hhigh, tail_ofNat _ (by omega) (by omega) (by omega),
          tail_ofNat _ (by omega) (by omega) (by omega), hbits]
        rfl

/-! ### Whole texts -/

/-- The bytes of a text begin with those of its first character. -/
theorem exists_encode_cons (c : Char) (cs : List Char) :
    ∃ b bs, encode (c :: cs) = b :: (bs ++ encode cs) ∧
      ∀ rest, decodeFirst b (bs ++ rest) = .ok (c, rest) := by
  obtain ⟨b, bs, hbytes, hfirst⟩ := decodeFirst_encodeChar c
  refine ⟨b, bs, ?_, hfirst⟩
  rw [encode, List.flatMap_cons, hbytes, encode, List.cons_append]

/-- There are bytes enough to be read once for each character. -/
theorem length_le_length_encode (cs : List Char) : cs.length ≤ (encode cs).length := by
  induction cs with
  | nil => exact Nat.le_refl _
  | cons c cs ih =>
    obtain ⟨b, bs, hsplit, -⟩ := exists_encode_cons c cs
    rw [hsplit, List.length_cons, List.length_cons, List.length_append]
    omega

theorem decodeFrom?_encode (cs done : List Char) {fuel : Nat} (hfuel : cs.length ≤ fuel) :
    decodeFrom? fuel done (encode cs) = some (done.reverse ++ cs) := by
  induction cs generalizing fuel done with
  | nil => cases fuel <;> simp [encode, decodeFrom?]
  | cons c cs ih =>
    obtain ⟨b, bs, hsplit, hfirst⟩ := exists_encode_cons c cs
    cases fuel with
    | zero => cases hfuel
    | succ fuel =>
      rw [hsplit, decodeFrom?, hfirst]
      dsimp only
      rw [ih (c :: done) (Nat.le_of_succ_le_succ hfuel), List.reverse_cons, List.append_assoc,
        List.singleton_append]

/-- **A text is read back from its bytes.** -/
theorem decode?_encode (s : String) : decode? (encode s.toList) = some s := by
  rw [decode?, decodeFrom?_encode _ _ (length_le_length_encode _), List.reverse_nil,
    List.nil_append, Option.map_some, String.ofList_toList]

theorem decodeLossyFrom_encode (cs done : List Char) {fuel : Nat} (hfuel : cs.length ≤ fuel) :
    decodeLossyFrom fuel done (encode cs) = done.reverse ++ cs := by
  induction cs generalizing fuel done with
  | nil => cases fuel <;> simp [encode, decodeLossyFrom]
  | cons c cs ih =>
    obtain ⟨b, bs, hsplit, hfirst⟩ := exists_encode_cons c cs
    cases fuel with
    | zero => cases hfuel
    | succ fuel =>
      rw [hsplit, decodeLossyFrom, hfirst]
      dsimp only
      rw [ih (c :: done) (Nat.le_of_succ_le_succ hfuel), List.reverse_cons, List.append_assoc,
        List.singleton_append]

/-- **Nothing is replaced** in the bytes of a text. -/
theorem decodeLossy_encode (s : String) : decodeLossy (encode s.toList) = s := by
  rw [decodeLossy, decodeLossyFrom_encode _ _ (length_le_length_encode _), List.reverse_nil,
    List.nil_append, String.ofList_toList]

/-- **Different texts have different bytes.** -/
theorem encode_injective {cs cs' : List Char} (h : encode cs = encode cs') : cs = cs' := by
  have htext : some (String.ofList cs) = some (String.ofList cs') := by
    rw [← decode?_encode, ← decode?_encode, String.toList_ofList, String.toList_ofList, h]
  exact String.ofList_injective (Option.some.inj htext)

end ClusterAudit.Utf8
