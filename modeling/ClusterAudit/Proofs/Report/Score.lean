import ClusterAudit.Proofs.Counting.Tally
import ClusterAudit.Proofs.Number.Binary64
import ClusterAudit.Report.Score
import Mathlib.Algebra.Order.BigOperators.Group.List

/-!
# Scores and what makes them better

A score is computed with doubles and rounded. This file says what it is in whole numbers
(`ClusterAudit.Tally.score_eq`): the points that are reached are never so many that rounding twice
would show. From then on a score is a fraction of two numbers, the points reached and the points
lost, and it can only be better with more of the former and less of the latter
(`ClusterAudit.Tally.score_le_score`), also where there is nothing to judge and a fraction makes no
sense.

Both numbers are sums over checks, as long as a tally can hold what it counts
(`ClusterAudit.Tally.Holds`). So a list of checks each of which ends as well as in another list or
better has at least the score of the other (`ClusterAudit.Tally.Holds.score_le_of_improves`). Grades
follow scores: the better ones stand in front in `ClusterAudit.Grade.letters`, and a grade of a
higher score does not stand behind that of a lower one (`ClusterAudit.Grade.rank_le_rank`).
-/

namespace ClusterAudit

/-! ### Points of single verdicts -/

namespace Verdict

/-- The points that a check reaches. -/
def points : Verdict → Nat
  | .success => 2
  | _ => 0

/-- The points that a check loses. -/
def lost : Verdict → Nat
  | .warning => 1
  | .error => 2
  | _ => 0

/-- **A verdict is as good as another or better**: it is the same, or it is a success now, or an
error has become a warning. -/
inductive Improves : Verdict → Verdict → Prop
  /-- It is the same. -/
  | same (v : Verdict) : Improves v v
  /-- It is a success now. -/
  | success (v : Verdict) : Improves v .success
  /-- An error has become a warning. -/
  | eased : Improves .error .warning

theorem Improves.points_le {v w : Verdict} (h : Improves v w) : v.points ≤ w.points := by
  cases h with
  | same => exact Nat.le_refl _
  | success => cases v <;> decide
  | eased => decide

theorem Improves.lost_le {v w : Verdict} (h : Improves v w) : w.lost ≤ v.lost := by
  cases h with
  | same => exact Nat.le_refl _
  | success => exact Nat.zero_le _
  | eased => decide

end Verdict

namespace Tally

variable {t u : Tally}

/-! ### Scores in whole numbers -/

/-- The points lost: one for every warning and two for every error. -/
def lost (t : Tally) : Nat :=
  t.warnings.toNat + 2 * t.errors.toNat

theorem maxPoints_eq (t : Tally) : t.maxPoints = t.points + t.lost := by
  rw [maxPoints, lost, Nat.add_assoc]

theorem maxPoints_lt (t : Tally) : t.maxPoints < 2 ^ (52 - 7) := by
  have hs := t.successes.toNat_lt
  have hw := t.warnings.toNat_lt
  have he := t.errors.toNat_lt
  rw [maxPoints, points]
  omega

theorem score_of_maxPoints_eq_zero (h : t.maxPoints = 0) : t.score = 100 := by
  rw [score, if_pos h]

/-- **A score is the exact percentage**, a half going up. -/
theorem score_eq (h : t.maxPoints ≠ 0) :
    t.score = (2 * (100 * t.points) + t.maxPoints) / (2 * t.maxPoints) := by
  have hle : t.points ≤ t.maxPoints := by
    rw [maxPoints_eq]
    exact Nat.le_add_right _ _
  -- a percentage has seven bits in front of the point
  have hbits : 100 * t.points < 2 ^ 7 * t.maxPoints := by omega
  rw [score, if_neg h]
  exact Binary64.roundNat_ofRatio (Nat.pos_of_ne_zero h) (by decide) hbits t.maxPoints_lt

theorem le_score_iff (h : t.maxPoints ≠ 0) {n : Nat} :
    n ≤ t.score ↔ 2 * n * t.maxPoints ≤ 200 * t.points + t.maxPoints := by
  rw [score_eq h, Nat.le_div_iff_mul_le (by omega), ← Nat.mul_assoc, ← Nat.mul_assoc,
    Nat.mul_comm n 2]

theorem score_le_hundred (t : Tally) : t.score ≤ 100 := by
  by_cases h : t.maxPoints = 0
  · exact (score_of_maxPoints_eq_zero h).le
  · refine Nat.le_of_lt_succ (Nat.lt_of_not_le fun hle => ?_)
    have := (le_score_iff h).1 hle
    have := t.maxPoints_eq
    omega

theorem score_of_lost_eq_zero (h : t.lost = 0) : t.score = 100 := by
  by_cases hmax : t.maxPoints = 0
  · exact score_of_maxPoints_eq_zero hmax
  · refine Nat.le_antisymm t.score_le_hundred ((le_score_iff hmax).2 ?_)
    rw [maxPoints_eq, h]
    omega

/-- **More points reached and fewer lost make no lower score.** -/
theorem score_le_score (hpoints : t.points ≤ u.points) (hlost : u.lost ≤ t.lost) :
    t.score ≤ u.score := by
  by_cases hu : u.lost = 0
  · rw [score_of_lost_eq_zero hu]
    exact t.score_le_hundred
  have ht : t.maxPoints ≠ 0 := by
    have := t.maxPoints_eq
    omega
  have hu' : u.maxPoints ≠ 0 := by
    have := u.maxPoints_eq
    omega
  generalize hn : t.score = n
  have hle : n ≤ 100 := hn ▸ t.score_le_hundred
  have hreached := (le_score_iff ht).1 hn.ge
  rw [maxPoints_eq] at hreached
  rw [le_score_iff hu', maxPoints_eq]
  cases n with
  | zero => omega
  | succ n =>
    -- what is lost counts against a score and what is reached for it, each with a factor
    obtain ⟨k, hk⟩ : ∃ k, 199 = 2 * n + k := Nat.exists_eq_add_of_le (by omega)
    have hagainst : (2 * n + 1) * u.lost ≤ (2 * n + 1) * t.lost := Nat.mul_le_mul_left _ hlost
    have hfor : k * t.points ≤ k * u.points := Nat.mul_le_mul_left _ hpoints
    have hbalance : ∀ p l, 2 * (n + 1) * (p + l) ≤ 200 * p + (p + l) ↔ (2 * n + 1) * l ≤ k * p := by
      intro p l
      have hp : 199 * p = 2 * n * p + k * p := by rw [hk, Nat.add_mul]
      have hn : 2 * (n + 1) * (p + l) = 2 * n * p + 2 * p + ((2 * n + 1) * l + l) := by ring
      omega
    exact (hbalance _ _).2 (hagainst.trans (((hbalance _ _).1 hreached).trans hfor))

/-! ### Points of lists -/

/-- **A tally can hold a list of verdicts**: none of those that are scored occurs more often than a
word can count. -/
def Holds (l : List Verdict) : Prop :=
  ∀ v, v ≠ .noData → l.count v < 2 ^ 32

variable {l m : List Verdict}

theorem holds_of_length_lt (small : l.length < 2 ^ 32) : Holds l := fun _ _ =>
  List.count_le_length.trans_lt small

theorem Holds.toNat_count {v : Verdict} (h : Holds l) (hv : v ≠ .noData) :
    ((ofVerdicts l).count v).toNat = l.count v := by
  rw [count_ofVerdicts]
  exact UInt32.toNat_ofNat_of_lt' (h v hv)

theorem Holds.points_ofVerdicts (h : Holds l) :
    (ofVerdicts l).points = (l.map Verdict.points).sum := by
  have hsum : ∀ m : List Verdict, (m.map Verdict.points).sum = 2 * m.count .success := by
    intro m
    induction m with
    | nil => rfl
    | cons v m ih =>
      cases v <;> simp [Verdict.points, ih]
      omega
  rw [points, hsum, ← h.toNat_count (by decide)]
  rfl

theorem Holds.lost_ofVerdicts (h : Holds l) : (ofVerdicts l).lost = (l.map Verdict.lost).sum := by
  have hsum : ∀ m : List Verdict,
      (m.map Verdict.lost).sum = m.count .warning + 2 * m.count .error := by
    intro m
    induction m with
    | nil => rfl
    | cons v m ih => cases v <;> simp [Verdict.lost, ih] <;> omega
  rw [lost, hsum, ← h.toNat_count (by decide), ← h.toNat_count (by decide)]
  rfl

/-- Lists are compared by the points that their verdicts reach and lose in all. -/
theorem Holds.score_le_score (hl : Holds l) (hm : Holds m)
    (hpoints : (l.map Verdict.points).sum ≤ (m.map Verdict.points).sum)
    (hlost : (m.map Verdict.lost).sum ≤ (l.map Verdict.lost).sum) :
    (ofVerdicts l).score ≤ (ofVerdicts m).score := by
  refine Tally.score_le_score ?_ ?_
  · rwa [hl.points_ofVerdicts, hm.points_ofVerdicts]
  · rwa [hl.lost_ofVerdicts, hm.lost_ofVerdicts]

/-- **Where every check ends as well as before or better, so does the score.** -/
theorem Holds.score_le_of_improves (hl : Holds l) (hm : Holds m)
    (h : List.Forall₂ Verdict.Improves l m) : (ofVerdicts l).score ≤ (ofVerdicts m).score := by
  refine hl.score_le_score hm ?_ ?_
  · refine List.Forall₂.sum_le_sum ?_
    rw [List.forall₂_map_left_iff, List.forall₂_map_right_iff]
    exact h.imp fun _ _ => Verdict.Improves.points_le
  · refine List.Forall₂.sum_le_sum ?_
    rw [List.forall₂_map_left_iff, List.forall₂_map_right_iff]
    exact h.flip.imp fun _ _ => Verdict.Improves.lost_le

theorem score_le_of_improves (small : l.length < 2 ^ 32) (h : List.Forall₂ Verdict.Improves l m) :
    (ofVerdicts l).score ≤ (ofVerdicts m).score :=
  (holds_of_length_lt small).score_le_of_improves (holds_of_length_lt (h.length_eq ▸ small)) h

end Tally

/-! ### Grades -/

/-- In a table whose keys go down, what is found first for a key is what stands behind all greater
ones. -/
theorem find?_eq_getElem?_countP {β : Type} {l : List (Nat × β)}
    (hl : l.Pairwise fun a b => b.1 < a.1) (n : Nat) :
    l.find? (fun b => b.1 ≤ n) = l[l.countP fun b => n < b.1]? := by
  induction l with
  | nil => rfl
  | cons a l ih =>
    obtain ⟨hfirst, hrest⟩ := List.pairwise_cons.1 hl
    by_cases h : a.1 ≤ n
    · -- then all others are below as well
      have hnone : l.countP (fun b => n < b.1) = 0 := by
        rw [List.countP_eq_zero]
        intro b hb
        have := hfirst b hb
        simp only [decide_eq_true_eq]
        omega
      simp [h, Nat.not_lt.2 h, hnone]
    · simp [h, Nat.lt_of_not_le h, ih hrest]

namespace Grade

/-- **The letters**, best first. -/
def letters : List String :=
  bounds.map Prod.snd ++ [lowest]

/-- How many letters are better than a letter. -/
def rank (letter : String) : Nat :=
  letters.idxOf letter

theorem getElem?_letters {i : Nat} (h : i ≤ bounds.length) :
    letters[i]? = some ((bounds[i]?.map Prod.snd).getD lowest) := by
  rcases Nat.lt_or_eq_of_le h with h | rfl
  · have hi : i < (bounds.map Prod.snd).length := by rwa [List.length_map]
    rw [letters, List.getElem?_append_left hi, List.getElem?_map, List.getElem?_eq_getElem h]
    rfl
  · rfl

/-- A grade stands behind all letters whose bounds are above the score. -/
theorem rank_ofScore (score : Nat) :
    rank (ofScore score) = bounds.countP fun b => score < b.1 := by
  have hbounds : bounds.Pairwise fun a b => b.1 < a.1 := by decide
  have hletters : letters.Nodup := by decide
  have hscore : letters[bounds.countP fun b => score < b.1]? = some (ofScore score) := by
    rw [getElem?_letters List.countP_le_length, ← find?_eq_getElem?_countP hbounds, ofScore]
    cases bounds.find? fun b => b.1 ≤ score <;> rfl
  obtain ⟨hlt, heq⟩ := List.getElem?_eq_some_iff.1 hscore
  rw [rank, ← heq]
  exact hletters.idxOf_getElem _ hlt

/-- **A higher score has no worse grade.** -/
theorem rank_le_rank {n m : Nat} (h : n ≤ m) : rank (ofScore m) ≤ rank (ofScore n) := by
  rw [rank_ofScore, rank_ofScore]
  refine List.countP_mono_left fun b _ hb => ?_
  simp only [decide_eq_true_eq] at hb ⊢
  omega

end Grade

end ClusterAudit
