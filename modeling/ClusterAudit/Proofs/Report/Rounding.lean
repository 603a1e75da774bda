import ClusterAudit.Proofs.Number.Quotient
import ClusterAudit.Proofs.Report.Score
import Mathlib.Data.Rat.Floor

/-!
# Scores as they are computed

A score is computed in machine words and doubles: the points are products and sums in words of 64
bits, both sides of the quotient are converted to doubles, and the quotient is divided and rounded.
`ClusterAudit.Tally.computedScore` takes these steps one by one. What can go wrong in them does not:

* the counts have 32 bits, so nothing overflows 64 bits, and not even the 53 bits that a conversion
  keeps (`ClusterAudit.Tally.toNat_maxPointsWord`, `ClusterAudit.Tally.partialResults_lt`);
* the quotient is rounded to a double and then to an integer, but the divisor is too small for the
  quotient to come close to a half without being one (`ClusterAudit.Tally.score_eq`).

So a score is the exact percentage, a half going up (`ClusterAudit.Tally.score_exact`).
-/

namespace ClusterAudit

namespace Tally

/-! ### Words and doubles -/

/-- The points reached, in a word of 64 bits. -/
def pointsWord (t : Tally) : UInt64 :=
  2 * t.successes.toUInt64

/-- The points that could be reached, in a word of 64 bits. -/
def maxPointsWord (t : Tally) : UInt64 :=
  t.pointsWord + t.warnings.toUInt64 + 2 * t.errors.toUInt64

/-- **The score as it is computed**: the products are words, the quotient is one of doubles. -/
def computedScore (t : Tally) : Nat :=
  if t.maxPointsWord = 0 then 100
  else
    ((Binary64.ofNat (100 * t.pointsWord).toNat).div (.ofNat t.maxPointsWord.toNat)).roundNat

variable (t : Tally)

/-- No whole number that comes up on the way has more than 53 bits. -/
theorem partialResults_lt :
    ∀ n ∈ [2 * t.successes.toNat, 2 * t.successes.toNat + t.warnings.toNat, 2 * t.errors.toNat,
      2 * t.successes.toNat + t.warnings.toNat + 2 * t.errors.toNat,
      100 * (2 * t.successes.toNat)], n < 2 ^ 53 := by
  have hs := t.successes.toNat_lt
  have hw := t.warnings.toNat_lt
  have he := t.errors.toNat_lt
  simp only [List.forall_mem_cons]
  exact ⟨by omega, by omega, by omega, by omega, by omega, nofun⟩

theorem toNat_pointsWord : t.pointsWord.toNat = t.points := by
  have hs := t.successes.toNat_lt
  rw [pointsWord, UInt64.toNat_mul, UInt32.toNat_toUInt64]
  exact Nat.mod_eq_of_lt (by simp; omega)

theorem toNat_maxPointsWord : t.maxPointsWord.toNat = t.maxPoints := by
  have hs := t.successes.toNat_lt
  have hw := t.warnings.toNat_lt
  have he := t.errors.toNat_lt
  have htwo : (2 : UInt64).toNat = 2 := rfl
  simp only [maxPointsWord, UInt64.toNat_add, UInt64.toNat_mul, toNat_pointsWord,
    UInt32.toNat_toUInt64, htwo, maxPoints, points]
  omega

theorem toNat_hundred_mul_pointsWord : (100 * t.pointsWord).toNat = 100 * t.points := by
  have hs := t.successes.toNat_lt
  have hhundred : (100 : UInt64).toNat = 100 := rfl
  rw [UInt64.toNat_mul, toNat_pointsWord, hhundred, points]
  omega

/-- **Words and doubles compute the score.** -/
theorem computedScore_eq : t.computedScore = t.score := by
  have hzero : t.maxPointsWord = 0 ↔ t.maxPoints = 0 := by
    rw [← UInt64.toNat_inj, toNat_maxPointsWord]
    rfl
  have hmax : t.maxPoints < 2 ^ 53 :=
    t.partialResults_lt _ (by simp only [List.mem_cons, maxPoints, points, true_or, or_true])
  have hhundred : 100 * t.points < 2 ^ 53 :=
    t.partialResults_lt _ (by simp only [List.mem_cons, points, true_or, or_true])
  rw [computedScore, score, toNat_maxPointsWord, toNat_hundred_mul_pointsWord,
    Binary64.div_ofNat hhundred hmax]
  simp only [hzero]

/-! ### The exact percentage -/

/-- **A score is the percentage of points that are reached**, rounded to the nearest integer with a
half going up. -/
theorem score_eq_round (h : t.maxPoints ≠ 0) :
    (t.score : ℤ) = round (100 * (t.points : ℚ) / t.maxPoints) := by
  have hmax : (t.maxPoints : ℚ) ≠ 0 := Nat.cast_ne_zero.2 h
  have hhalf : 100 * (t.points : ℚ) / t.maxPoints + 1 / 2 =
      ((2 * (100 * t.points) + t.maxPoints : ℕ) : ℚ) / (2 * t.maxPoints : ℕ) := by
    push_cast
    field_simp
  rw [round_eq, hhalf, Rat.floor_natCast_div_natCast, score_eq h]
  rfl

theorem score_of_successes_eq_zero (h : t.maxPoints ≠ 0) (hs : t.successes.toNat = 0) :
    t.score = 0 := by
  rw [score_eq h, points, hs]
  exact Nat.div_eq_of_lt (by omega)

/-- **A score is exact.** With `s` successes, `w` warnings and `e` errors, `d = 2 * s + w + 2 * e`
points could be reached. Nothing that is computed on the way overflows a word of 64 bits or is
changed by the conversion to a double, and the double that comes out is rounded to the percentage
`100 * 2 * s / d`, a half going up; without points to reach it is 100. It is 100 at most, does not
see checks without data, and is 100 if all checks passed and 0 if none did. -/
theorem score_exact (t : Tally) :
    let s := t.successes.toNat
    let w := t.warnings.toNat
    let e := t.errors.toNat
    let d := 2 * s + w + 2 * e
    (∀ n ∈ [2 * s, 2 * s + w, 2 * e, d, 100 * (2 * s)], n < 2 ^ 53) ∧
    (t.pointsWord.toNat = 2 * s ∧ t.maxPointsWord.toNat = d ∧
      (100 * t.pointsWord).toNat = 100 * (2 * s)) ∧
    t.computedScore = t.score ∧
    (t.score = if d = 0 then 100 else (400 * s + d) / (2 * d)) ∧
    (d ≠ 0 → (t.score : ℤ) = round (100 * (2 * s : ℚ) / d)) ∧
    t.score ≤ 100 ∧
    (∀ n, { t with noData := n }.score = t.score) ∧
    (0 < d → w = 0 → e = 0 → t.score = 100) ∧
    (0 < d → s = 0 → t.score = 0) := by
  intro s w e d
  have hmax : t.maxPoints = d := rfl
  refine ⟨t.partialResults_lt, ⟨t.toNat_pointsWord, t.toNat_maxPointsWord,
    t.toNat_hundred_mul_pointsWord⟩, t.computedScore_eq, ?_, fun hd => ?_, t.score_le_hundred,
    fun _ => rfl, fun _ hw he => ?_, fun hd hs => ?_⟩
  · by_cases hd : d = 0
    · rw [if_pos hd, score_of_maxPoints_eq_zero (hmax.trans hd)]
    · have hfour : 2 * (100 * t.points) = 400 * s := by
        rw [points]
        omega
      rw [if_neg hd, score_eq (hmax ▸ hd), hfour, hmax]
  · have := t.score_eq_round (hmax ▸ hd)
    rwa [hmax, points, Nat.cast_mul, Nat.cast_ofNat] at this
  · exact score_of_lost_eq_zero (by rw [lost]; omega)
  · exact t.score_of_successes_eq_zero (hmax ▸ hd.ne') hs

/-- One point of eight is 12.5 percent, which is rounded up; and the largest counts do not overflow
either. -/
theorem score_exact_half :
    let t : Tally := { successes := 1, warnings := 14, noData := 7 }
    let u : Tally := { successes := 4294967295, warnings := 4294967295, errors := 4294967295 }
    t.score = 13 ∧ (t.score : ℤ) = round (100 * (2 * (1 : ℕ) : ℚ) / (16 : ℕ)) ∧ u.score = 40 ∧
      u.computedScore = 40 := by
  intro t u
  obtain ⟨-, -, -, hscore, hround, -⟩ := t.score_exact
  obtain ⟨-, -, hcomputed, hlarge, -⟩ := u.score_exact
  have hforty : u.score = 40 := hlarge.trans (by decide)
  exact ⟨hscore.trans (by decide), hround (by decide), hforty, hcomputed.trans hforty⟩

end Tally

end ClusterAudit
