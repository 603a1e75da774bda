import ClusterAudit.Number.Binary64
import Mathlib.Tactic.Ring

/-!
# A quotient that is rounded twice

A percentage is computed as a quotient of two integers. It is rounded to a double first and then to
an integer, and two roundings may go astray: a quotient just below a half may become the half, and
the half goes up. This file says when they do not (`ClusterAudit.Binary64.roundNat_ofRatio`).

The argument is about how far things lie from each other. A quotient that is below a half is below
it by more than one part in twice the divisor, since both are fractions over twice the divisor. The
first rounding moves it by half a unit in the last place at most
(`ClusterAudit.Binary64.two_mul_divEven_mul_le`), and that is less as long as the divisor has fewer
bits than there are behind the point (`ClusterAudit.Binary64.unitExponent_le`).
-/

namespace ClusterAudit

namespace Binary64

/-! ### To the nearest integer -/

theorem div_le_divEven (num den : Nat) : num / den ≤ divEven num den := by
  simp only [divEven]
  split
  · exact Nat.le_refl _
  · split
    · split <;> omega
    · omega

theorem le_divEven {num den n : Nat} (hden : 0 < den) (h : n * den ≤ num) : n ≤ divEven num den :=
  ((Nat.le_div_iff_mul_le hden).2 h).trans (div_le_divEven num den)

/-- The nearest integer is above the quotient by a half at most. -/
theorem two_mul_divEven_mul_le (num den : Nat) : 2 * (divEven num den * den) ≤ 2 * num + den := by
  have hdiv : num / den * den + num % den = num := Nat.div_add_mod' num den
  have hnext : (num / den + 1) * den = num / den * den + den := Nat.succ_mul _ _
  simp only [divEven]
  split
  · omega
  · split
    · split
      · omega
      · rw [hnext]
        omega
    · rw [hnext]
      omega

/-! Let the unit be one part in `2 * q`. Rounding to units keeps a quotient on its side of a number
of halves: below or at the quotient the halves are units themselves, and above it they are further
away than a unit if there are more units than parts of the divisor. -/

theorem le_divEven_of_halves {num den h : Nat} (hden : 0 < den) (hh : h * den ≤ 2 * num) (q : Nat) :
    h * q ≤ divEven (num * (2 * q)) den := by
  refine le_divEven hden ?_
  calc h * q * den = h * den * q := Nat.mul_right_comm h q den
    _ ≤ 2 * num * q := Nat.mul_le_mul_right q hh
    _ = num * (2 * q) := by ring

theorem divEven_lt_of_halves {num den h q : Nat} (hh : 2 * num < h * den) (hq : den < 2 * q) :
    divEven (num * (2 * q)) den < h * q := by
  refine Nat.lt_of_mul_lt_mul_right (a := 2 * den) ?_
  calc divEven (num * (2 * q)) den * (2 * den)
      = 2 * (divEven (num * (2 * q)) den * den) := Nat.mul_left_comm _ 2 den
    _ ≤ 2 * (num * (2 * q)) + den := two_mul_divEven_mul_le _ den
    _ < 2 * (num * (2 * q)) + 2 * q := Nat.add_lt_add_left hq _
    _ = (2 * num + 1) * (2 * q) := by ring
    _ ≤ h * den * (2 * q) := Nat.mul_le_mul_right _ hh
    _ = h * q * (2 * den) := by ring

theorem scaled_negSucc (num den e : Nat) :
    scaled num den (.negSucc e) = divEven (num * 2 ^ (e + 1)) den := by
  rw [← Nat.shiftLeft_eq]
  rfl

/-! ### The place of the last bit -/

/-- A quotient below `2 ^ k` has its last bit `52` places lower or further down. -/
theorem unitExponent_le {num den k : Nat} (hnum : num ≠ 0) (h : num < 2 ^ k * den) :
    unitExponent num den ≤ k - 52 := by
  have hlog : num.log2 < den.log2 + 1 + k := by
    rw [Nat.log2_lt hnum]
    calc num < 2 ^ k * den := h
      _ < 2 ^ k * 2 ^ (den.log2 + 1) :=
        Nat.mul_lt_mul_of_pos_left Nat.lt_log2_self (Nat.two_pow_pos k)
      _ = 2 ^ (den.log2 + 1 + k) := by rw [← Nat.pow_add, Nat.add_comm]
  simp only [unitExponent, minExponent]
  split <;> omega

/-- Rounding to an integer does not see how a number was normalised. -/
theorem roundNat_normalise (m e : Nat) :
    (normalise m (.negSucc e)).roundNat = (2 * m + 2 ^ (e + 1)) / 2 ^ (e + 2) := by
  have hlow : 2 ^ (e + 1) < 2 ^ (e + 2) := Nat.pow_lt_pow_right (by decide) (Nat.lt_succ_self _)
  by_cases hzero : m = 0
  · subst hzero
    rw [normalise, if_pos rfl, Nat.mul_zero, Nat.zero_add, Nat.div_eq_of_lt hlow]
    rfl
  by_cases hcarry : m = 2 * leastFull
  -- the significand was carried up to the next power of two, and the exponent with it
  · subst hcarry
    cases e with
    | zero => rfl
    | succ e =>
      have hexponent : Int.negSucc (e + 1) + 1 = Int.negSucc e := rfl
      have hsmall : ¬maxExponent < Int.negSucc e := by
        rw [maxExponent]
        omega
      rw [normalise, if_neg hzero, if_pos rfl, hexponent]
      simp only [if_neg hsmall, roundNat, Nat.shiftLeft_eq, Nat.shiftRight_eq_div_pow, Nat.one_mul]
      rw [Nat.pow_succ' (n := e + 2), Nat.pow_succ' (n := e + 1), ← Nat.mul_add,
        Nat.mul_div_mul_left _ _ (by decide)]
  · have hsmall : ¬maxExponent < Int.negSucc e := by
      rw [maxExponent]
      omega
    rw [normalise, if_neg hzero, if_neg hcarry]
    simp only [if_neg hsmall, roundNat, Nat.shiftLeft_eq, Nat.shiftRight_eq_div_pow, Nat.one_mul]

/-! ### Both roundings -/

/-- **Rounding twice is rounding once**, a half going up, where the quotient is below `2 ^ k` and
the divisor has no more bits than the `52 - k` that are behind the point. -/
theorem roundNat_ofRatio {num den k : Nat} (hden : 0 < den) (hk : k < 52)
    (hquotient : num < 2 ^ k * den) (hdivisor : den < 2 ^ (52 - k)) :
    (ofRatio num den).roundNat = (2 * num + den) / (2 * den) := by
  by_cases hnum : num = 0
  · subst hnum
    rw [ofRatio, if_pos (.inl rfl), Nat.mul_zero, Nat.zero_add, Nat.div_eq_of_lt (by omega)]
    rfl
  obtain ⟨e, he⟩ : ∃ e, unitExponent num den = .negSucc e := by
    refine Int.eq_negSucc_of_lt_zero ?_
    have := unitExponent_le hnum hquotient
    omega
  have hplaces : den < 2 * 2 ^ e := by
    have hle := unitExponent_le hnum hquotient
    rw [he] at hle
    rw [← Nat.pow_succ']
    exact hdivisor.trans_le (Nat.pow_le_pow_right (by decide) (by omega))
  simp only [ofRatio, hnum, hden.ne', or_self, if_false, he, scaled_negSucc, roundNat_normalise,
    Nat.pow_succ' (n := e), Nat.pow_succ' (n := e + 1)]
  generalize hn : (2 * num + den) / (2 * den) = n
  obtain ⟨hlower, hupper⟩ := (Nat.div_eq_iff (by omega)).1 hn
  -- the double lies between the same two halves as the quotient
  have hbelow : (2 * n - 1) * 2 ^ e ≤ divEven (num * (2 * 2 ^ e)) den := by
    refine le_divEven_of_halves hden ?_ _
    rw [Nat.sub_mul]
    grind
  have habove : divEven (num * (2 * 2 ^ e)) den < (2 * n + 1) * 2 ^ e :=
    divEven_lt_of_halves (by grind) hplaces
  refine (Nat.div_eq_iff (by omega)).2 ⟨?_, ?_⟩
  · rw [Nat.sub_mul] at hbelow
    grind
  · grind

end Binary64

end ClusterAudit
