import ClusterAudit.Text.Utf8
import Mathlib.Data.UInt
import Mathlib.Order.Basic

/-!
# The order of texts

Texts are ordered letter by letter, and files, tables and whoever reads a report order them byte by
byte. It is the same order: of two characters the smaller one has the smaller bytes at the first
place where they differ, and neither begins with all the bytes of the other, so it does not matter
what follows (`ClusterAudit.Utf8.encodeChar_append_lt`).
-/

namespace ClusterAudit.Utf8

theorem toNat_char_lt (c : Char) : c.toNat < 0x110000 := by
  rcases c.valid with h | ⟨-, h⟩
  · exact Nat.lt_trans h (by decide)
  · exact h

/-- **Of two characters the smaller has the smaller bytes**, whatever follows. -/
theorem encodeChar_append_lt {a b : Char} (h : a < b) (s t : List UInt8) :
    encodeChar a ++ s < encodeChar b ++ t := by
  have hlt : a.toNat < b.toNat := h
  have hb := toNat_char_lt b
  simp only [encodeChar]
  generalize a.toNat = m at hlt
  generalize b.toNat = n at hlt hb
  repeat' split
  all_goals
    simp only [List.cons_append, List.nil_append, List.cons_lt_cons_iff, UInt8.lt_iff_toNat_lt,
      ← UInt8.toNat_inj, UInt8.toNat_ofNat']
    simp (disch := omega) only [Nat.mod_eq_of_lt]
    omega

theorem encode_cons (c : Char) (cs : List Char) : encode (c :: cs) = encodeChar c ++ encode cs :=
  List.flatMap_cons

theorem nil_lt_encode_cons (c : Char) (cs : List Char) : [] < encode (c :: cs) := by
  rw [encode_cons, encodeChar]
  split_ifs <;> exact .nil

theorem encode_lt_encode {s t : List Char} (h : s < t) : encode s < encode t := by
  induction h with
  | @nil c cs => exact nil_lt_encode_cons c cs
  | @rel a as b bs h =>
    rw [encode_cons, encode_cons]
    exact encodeChar_append_lt h _ _
  | @cons c as bs h ih =>
    rw [encode_cons, encode_cons]
    exact List.append_left_lt ih

/-- **The order of texts is the order of their bytes.** -/
theorem encode_lt_encode_iff {s t : String} : encode s.toList < encode t.toList ↔ s < t := by
  constructor
  · intro h
    rcases Std.lt_trichotomy s t with hlt | heq | hgt
    · exact hlt
    · exact absurd (heq ▸ h) (List.lt_irrefl _)
    · exact absurd h (List.lt_asymm (encode_lt_encode (String.lt_iff.1 hgt)))
  · exact fun h => encode_lt_encode h

end ClusterAudit.Utf8
