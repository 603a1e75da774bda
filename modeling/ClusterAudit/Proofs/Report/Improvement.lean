import ClusterAudit.Proofs.Report.Derived
import ClusterAudit.Proofs.Report.Score

/-!
# Better checks and better reports

A report gets better when its checks get better. This is so for any number of changes at once, and
also when checks come in or go away: the score is a fraction, and a check moves what stands above
and below at the same time, but it either adds to the points that are reached or to those that are
lost, never to both. A check that loses no points can only help
(`ClusterAudit.Tally.Holds.score_le_insert`), one that reaches none can only harm
(`ClusterAudit.Tally.Holds.score_insert_le`), and one without data does neither, so it is nothing to
the score at all.

The empty report needs no case of its own. It has the best score, and a check that harms takes it
down from there at once.
-/

namespace ClusterAudit

namespace Tally

variable {front back : List Verdict} {v : Verdict}

/-! ### One verdict more -/

theorem sum_map_insert (f : Verdict → Nat) (front back : List Verdict) (v : Verdict) :
    ((front ++ v :: back).map f).sum = ((front ++ back).map f).sum + f v := by
  simp only [List.map_append, List.map_cons, List.sum_append, List.sum_cons]
  omega

/-- What holds a list holds it with a verdict left out. -/
theorem Holds.of_insert (h : Holds (front ++ v :: back)) : Holds (front ++ back) := fun w hw =>
  ((List.sublist_cons_self v back).append_left front).count_le w |>.trans_lt (h w hw)

/-- **A verdict that loses no points lowers no score.** -/
theorem Holds.score_le_insert (h : Holds (front ++ v :: back)) (hv : v.lost = 0) :
    (ofVerdicts (front ++ back)).score ≤ (ofVerdicts (front ++ v :: back)).score := by
  refine h.of_insert.score_le_score h ?_ ?_
  · rw [sum_map_insert]
    exact Nat.le_add_right _ _
  · rw [sum_map_insert, hv, Nat.add_zero]

/-- **A verdict that reaches no points raises no score.** -/
theorem Holds.score_insert_le (h : Holds (front ++ v :: back)) (hv : v.points = 0) :
    (ofVerdicts (front ++ v :: back)).score ≤ (ofVerdicts (front ++ back)).score := by
  refine h.score_le_score h.of_insert ?_ ?_
  · rw [sum_map_insert, hv, Nat.add_zero]
  · rw [sum_map_insert]
    exact Nat.le_add_right _ _

end Tally

/-! ### Reports that are compared -/

namespace Report

variable {r r' : Report}

/-- **A report stands no higher than another one**: neither is its score higher nor its grade
better. -/
structure StandsBelow (r r' : Report) : Prop where
  /-- The score is the same or lower. -/
  score : r.cluster.score ≤ r'.cluster.score
  /-- The grade is the same or worse. -/
  grade : Grade.rank r'.cluster.grade ≤ Grade.rank r.cluster.grade

/-- The verdicts of the checks of a report. -/
def verdicts (r : Report) : List Verdict :=
  r.checks.map Check.verdict

theorem standsBelow_finalize
    (h : (Tally.ofVerdicts r.verdicts).score ≤ (Tally.ofVerdicts r'.verdicts).score) :
    r.finalize.StandsBelow r'.finalize := by
  have hscore : r.finalize.cluster.score ≤ r'.finalize.cluster.score := by
    rwa [score_finalize, score_finalize, overallSummary_finalize, overallSummary_finalize]
  refine ⟨hscore, ?_⟩
  rw [grade_finalize, grade_finalize]
  exact Grade.rank_le_rank hscore

/-- **Better checks make no worse report.** Let two reports have as many checks as their counts can
hold. If every check of the second ends as its counterpart in the first or better, then the first
stands no higher when both are finalized. If the second has one more check, anywhere, then the first
stands no higher if this check passed, the second stands no higher if it is a warning or an error,
and both have the same score and the same grade if it is without data; read from the second to the
first, these are the changes when a check goes away. -/
theorem finalize_of_better (r r' : Report) (holds : Tally.Holds r.verdicts)
    (holds' : Tally.Holds r'.verdicts) :
    (List.Forall₂ (fun c c' => c.verdict.Improves c'.verdict) r.checks r'.checks →
      r.finalize.StandsBelow r'.finalize) ∧
    ∀ front c back, r.checks = front ++ back → r'.checks = front ++ c :: back →
      (c.verdict = .success → r.finalize.StandsBelow r'.finalize) ∧
      (c.verdict = .warning ∨ c.verdict = .error → r'.finalize.StandsBelow r.finalize) ∧
      (c.verdict = .noData → r'.finalize.cluster.score = r.finalize.cluster.score ∧
        r'.finalize.cluster.grade = r.finalize.cluster.grade) := by
  refine ⟨fun himproves => ?_, fun front c back hr hr' => ?_⟩
  · refine standsBelow_finalize (holds.score_le_of_improves holds' ?_)
    rwa [verdicts, verdicts, List.forall₂_map_left_iff, List.forall₂_map_right_iff]
  · have hverdicts : r.verdicts = front.map Check.verdict ++ back.map Check.verdict := by
      rw [verdicts, hr, List.map_append]
    have hverdicts' :
        r'.verdicts = front.map Check.verdict ++ c.verdict :: back.map Check.verdict := by
      rw [verdicts, hr', List.map_append, List.map_cons]
    rw [hverdicts'] at holds'
    -- a verdict that loses nothing and one that reaches nothing, each on its own
    have hup : c.verdict.lost = 0 → r.finalize.StandsBelow r'.finalize := fun hlost =>
      standsBelow_finalize (by rw [hverdicts, hverdicts']; exact holds'.score_le_insert hlost)
    have hdown : c.verdict.points = 0 → r'.finalize.StandsBelow r.finalize := fun hpoints =>
      standsBelow_finalize (by rw [hverdicts, hverdicts']; exact holds'.score_insert_le hpoints)
    refine ⟨fun hc => hup (by rw [hc]; rfl), fun hc => hdown ?_, fun hc => ?_⟩
    · rcases hc with hc | hc <;> rw [hc] <;> rfl
    · have hscore : r'.finalize.cluster.score = r.finalize.cluster.score :=
        Nat.le_antisymm (hdown (by rw [hc]; rfl)).score (hup (by rw [hc]; rfl)).score
      exact ⟨hscore, by rw [grade_finalize, grade_finalize, hscore]⟩

/-- Two checks get better, from failed and without data to a warning and passed; and one error is
found where there was nothing, for the whole score. -/
theorem finalize_of_better_two :
    let reportOf (l : List Verdict) : Report := (Report.ofSnapshot {} none).addChecks
      (l.map fun v => { id := "", group := "", category := "", resource := "", verdict := v })
    Tally.Holds (reportOf [.error, .noData]).verdicts ∧
    (reportOf [.error, .noData]).finalize.StandsBelow (reportOf [.warning, .success]).finalize ∧
    (reportOf [.error]).finalize.StandsBelow (reportOf []).finalize ∧
    (reportOf [.error]).finalize.cluster.score = 0 ∧
    (reportOf []).finalize.cluster.score = 100 := by
  intro reportOf
  have holds (l : List Verdict) (hl : l.length < 2 ^ 32) : Tally.Holds (reportOf l).verdicts := by
    refine Tally.holds_of_length_lt ?_
    simpa [reportOf, verdicts, addChecks, Report.ofSnapshot] using hl
  have himproves := (finalize_of_better (reportOf [.error, .noData]) (reportOf [.warning, .success])
    (holds _ (by decide)) (holds _ (by decide))).1
  have hinsert := (finalize_of_better (reportOf []) (reportOf [.error])
    (holds _ (by decide)) (holds _ (by decide))).2 [] _ [] rfl rfl
  refine ⟨holds _ (by decide), himproves ?_, hinsert.2.1 (.inr rfl), ?_, ?_⟩
  · exact .cons .eased (.cons (.success _) .nil)
  · decide +kernel
  · decide +kernel

end Report

end ClusterAudit
