import ClusterAudit.Number.Binary64
import ClusterAudit.Verdict

/-!
# Scores and grades

A score is the percentage of points that the checks of a report reach. A passed check is worth
two points and so is an error, which reaches none of them; a warning is worth one. Checks
without data are worth nothing either way, and a report that has nothing to judge reaches all.

The percentage is a quotient of doubles rounded to the nearest integer. A grade is the letter of
the range that a score lies in.
-/

namespace ClusterAudit

namespace Tally

/-- The points reached, twice the number of passed checks. -/
def points (t : Tally) : Nat :=
  2 * t.successes.toNat

/-- The points that could be reached. -/
def maxPoints (t : Tally) : Nat :=
  t.points + t.warnings.toNat + 2 * t.errors.toNat

/-- **The score of a tally**, from 0 to 100. -/
def score (t : Tally) : Nat :=
  if t.maxPoints = 0 then 100 else (Binary64.ofRatio (100 * t.points) t.maxPoints).roundNat

end Tally

namespace Grade

/-- The letters with the least score each is given for, best first. -/
def bounds : List (Nat × String) :=
  [(97, "A+"), (93, "A"), (90, "A-"), (87, "B+"), (83, "B"), (80, "B-"), (77, "C+"), (73, "C"),
    (70, "C-"), (67, "D+"), (63, "D"), (60, "D-")]

/-- The letter below all bounds. -/
def lowest : String := "F"

/-- **The letter of a score.** -/
def ofScore (score : Nat) : String :=
  match bounds.find? fun b => b.1 ≤ score with
  | some b => b.2
  | none => lowest

end Grade

end ClusterAudit
