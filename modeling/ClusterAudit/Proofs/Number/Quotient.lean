import ClusterAudit.Proofs.Number.Binary64

/-!
# Quotients of converted integers

To divide two integers as doubles is to round three times, once for each integer when it is
converted and once for the quotient, where `ClusterAudit.Binary64.ofRatio` rounds only once. For
integers below `2 ^ 53` there is no difference (`ClusterAudit.Binary64.div_ofNat`), for two reasons:

* nothing is lost when such an integer is converted: the double stands for a quotient that is the
  integer with both sides multiplied by the same power of two
  (`ClusterAudit.Binary64.ratio?_ofNat`);
* a power of two on both sides of a quotient does not change the double nearest to it
  (`ClusterAudit.Binary64.ofRatio_mul_two_pow`), since it neither changes where the last bit stands
  nor on which side of a half the quotient lies.
-/

namespace ClusterAudit

namespace Binary64

/-- **The double nearest to an integer.** -/
def ofNat (n : Nat) : Binary64 :=
  ofRatio n 1

/-! ### A power of two on both sides -/

theorem log2_mul_two_pow {n : Nat} (hn : n ≠ 0) (k : Nat) : (n * 2 ^ k).log2 = n.log2 + k := by
  have hpos : n * 2 ^ k ≠ 0 := Nat.mul_ne_zero hn (Nat.two_pow_pos k).ne'
  rw [Nat.log2_eq_iff hpos, Nat.pow_add, Nat.add_right_comm, Nat.pow_add]
  exact ⟨Nat.mul_le_mul_right _ (Nat.log2_self_le hn),
    Nat.mul_lt_mul_of_pos_right Nat.lt_log2_self (Nat.two_pow_pos k)⟩

theorem divEven_mul_right (num den : Nat) {k : Nat} (hk : 0 < k) :
    divEven (num * k) (den * k) = divEven num den := by
  have hlt : 2 * (num % den * k) < den * k ↔ 2 * (num % den) < den := by
    rw [← Nat.mul_assoc, Nat.mul_lt_mul_right hk]
  have heq : 2 * (num % den * k) = den * k ↔ 2 * (num % den) = den := by
    rw [← Nat.mul_assoc, Nat.mul_left_inj hk.ne']
  simp only [divEven, Nat.mul_div_mul_right _ _ hk, Nat.mul_mod_mul_right, hlt, heq]

variable {num den : Nat}

theorem scaled_mul_two_pow (num den k : Nat) (e : Int) :
    scaled (num * 2 ^ k) (den * 2 ^ k) e = scaled num den e := by
  have hpos := Nat.two_pow_pos k
  cases e with
  | ofNat e =>
    simp only [scaled, Nat.shiftLeft_eq]
    rw [Nat.mul_right_comm, divEven_mul_right _ _ hpos]
  | negSucc e =>
    simp only [scaled, Nat.shiftLeft_eq]
    rw [Nat.mul_right_comm, divEven_mul_right _ _ hpos]

theorem fills_mul_two_pow (num den k : Nat) (e : Int) :
    fills (num * 2 ^ k) (den * 2 ^ k) e = fills num den e := by
  have hle : ∀ a b : Nat, a * 2 ^ k ≤ b * 2 ^ k ↔ a ≤ b := fun a b =>
    Nat.mul_le_mul_right_iff (Nat.two_pow_pos k)
  cases e with
  | ofNat e =>
    simp only [fills, Nat.shiftLeft_eq]
    simp only [Nat.mul_right_comm den (2 ^ k), hle]
  | negSucc e =>
    simp only [fills, Nat.shiftLeft_eq]
    simp only [Nat.mul_right_comm den (2 ^ k), Nat.mul_right_comm num (2 ^ k), hle]

theorem unitExponent_mul_two_pow (hnum : num ≠ 0) (hden : den ≠ 0) (k : Nat) :
    unitExponent (num * 2 ^ k) (den * 2 ^ k) = unitExponent num den := by
  have hsame : ((num.log2 + k : Nat) : Int) - (den.log2 + k : Nat) - 52 =
      (num.log2 : Int) - den.log2 - 52 := by omega
  simp only [unitExponent, log2_mul_two_pow hnum, log2_mul_two_pow hden, hsame, fills_mul_two_pow]

/-- **A power of two on both sides** of a quotient leaves the double that is nearest to it. -/
theorem ofRatio_mul_two_pow (num den k : Nat) :
    ofRatio (num * 2 ^ k) (den * 2 ^ k) = ofRatio num den := by
  by_cases hzero : num = 0 ∨ den = 0
  · have hzero' : num * 2 ^ k = 0 ∨ den * 2 ^ k = 0 :=
      hzero.imp (fun h => by rw [h, Nat.zero_mul]) (fun h => by rw [h, Nat.zero_mul])
    rw [ofRatio, ofRatio, if_pos hzero, if_pos hzero']
  · obtain ⟨hnum, hden⟩ := not_or.1 hzero
    have hpos := (Nat.two_pow_pos k).ne'
    have hzero' : ¬(num * 2 ^ k = 0 ∨ den * 2 ^ k = 0) :=
      not_or.2 ⟨Nat.mul_ne_zero hnum hpos, Nat.mul_ne_zero hden hpos⟩
    simp only [ofRatio, if_neg hzero, if_neg hzero', unitExponent_mul_two_pow hnum hden,
      scaled_mul_two_pow]

/-! ### Integers as doubles -/

/-! An integer of 53 bits at most is written with `k` zeros behind it, as many as it takes to have
53 bits. The unit is then one part in `2 ^ k`. -/

theorem fills_one (n k : Nat) : fills n 1 (-(k : Int)) = decide (2 ^ 52 ≤ n * 2 ^ k) := by
  cases k with
  | zero => simp [fills, Nat.shiftLeft_eq]
  | succ k =>
    rw [Int.neg_ofNat_succ]
    simp [fills, Nat.shiftLeft_eq]

theorem scaled_one (n k : Nat) : scaled n 1 (-(k : Int)) = n * 2 ^ k := by
  have hwhole : ∀ m, divEven m 1 = m := fun m => by simp [divEven, Nat.mod_one]
  cases k with
  | zero => simp [scaled, hwhole]
  | succ k =>
    rw [Int.neg_ofNat_succ, scaled_negSucc, hwhole]

theorem ratio?_finite (m k : Nat) :
    (finite false m (-(k : Int))).ratio? = some (false, m, 2 ^ k) := by
  cases k with
  | zero => rfl
  | succ k =>
    rw [Int.neg_ofNat_succ, ratio?, Nat.shiftLeft_eq, Nat.one_mul]

theorem unitExponent_one {n k : Nat} (hn : n ≠ 0) (h : n.log2 + k = 52) :
    unitExponent n 1 = -(k : Int) := by
  have hbits : 2 ^ 52 ≤ n * 2 ^ k := by
    calc 2 ^ 52 = 2 ^ n.log2 * 2 ^ k := by rw [← Nat.pow_add, h]
      _ ≤ n * 2 ^ k := Nat.mul_le_mul_right _ (Nat.log2_self_le hn)
  have hplace : (n.log2 : Int) - (1 : Nat).log2 - 52 = -(k : Int) := by
    have hone : (1 : Nat).log2 = 0 := by decide
    omega
  simp only [unitExponent, hplace, fills_one, hbits, decide_true, if_true, minExponent]
  omega

/-- **Nothing is lost when an integer below `2 ^ 53` is converted.** -/
theorem ratio?_ofNat {n : Nat} (h : n < 2 ^ 53) :
    ∃ k, (ofNat n).ratio? = some (false, n * 2 ^ k, 2 ^ k) := by
  by_cases hn : n = 0
  · subst hn
    exact ⟨0, rfl⟩
  obtain ⟨k, hk⟩ : ∃ k, n.log2 + k = 52 :=
    Nat.exists_eq_add_of_le (Nat.le_of_lt_succ ((Nat.log2_lt hn).2 h)) |>.imp fun _ => Eq.symm
  have hzero : n * 2 ^ k ≠ 0 := Nat.mul_ne_zero hn (Nat.two_pow_pos k).ne'
  have hfull : n * 2 ^ k ≠ 2 * leastFull := by
    have : n * 2 ^ k < 2 ^ 53 := by
      calc n * 2 ^ k < 2 ^ (n.log2 + 1) * 2 ^ k :=
            Nat.mul_lt_mul_of_pos_right Nat.lt_log2_self (Nat.two_pow_pos k)
        _ = 2 ^ 53 := by rw [← Nat.pow_add, Nat.add_right_comm, hk]
    exact this.ne
  have hsmall : ¬maxExponent < -(k : Int) := by
    rw [maxExponent]
    omega
  refine ⟨k, ?_⟩
  simp only [ofNat, ofRatio, hn, Nat.one_ne_zero, or_self, if_false, unitExponent_one hn hk,
    scaled_one, normalise, hzero, hfull, hsmall, ratio?_finite]

/-- **The quotient of two converted integers** below `2 ^ 53` is the double nearest to the quotient
of the integers. -/
theorem div_ofNat (hnum : num < 2 ^ 53) (hden : den < 2 ^ 53) :
    (ofNat num).div (ofNat den) = ofRatio num den := by
  obtain ⟨i, hi⟩ := ratio?_ofNat hnum
  obtain ⟨j, hj⟩ := ratio?_ofNat hden
  have hleft : num * 2 ^ i * 2 ^ j = num * 2 ^ (i + j) := by rw [Nat.mul_assoc, Nat.pow_add]
  have hright : 2 ^ i * (den * 2 ^ j) = den * 2 ^ (i + j) := by rw [Nat.pow_add]; ring
  simp only [div, hi, hj, hleft, hright, ofRatio_mul_two_pow]
  rfl

end Binary64

end ClusterAudit
