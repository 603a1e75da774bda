import ClusterAudit.Json.Basic

/-!
# Verdicts and their counts

Every check of an audit ends in one of four verdicts, and every summary of a report is a
count of verdicts. `Tally` holds the four counts as 32-bit words, since that is what a report
carries; adding tallies is adding them field by field, so the order in which checks are
counted does not matter.
-/

namespace ClusterAudit

/-- How a check ended. -/
inductive Verdict where
  /-- The check passed. -/
  | success
  /-- The check failed and the failure is a warning. -/
  | warning
  /-- The check failed and the failure is an error. -/
  | error
  /-- There was nothing to check with. -/
  | noData
deriving DecidableEq, Repr, Inhabited

/-- The word for a verdict in a report. -/
def Verdict.label : Verdict → String
  | .success => "success"
  | .warning => "warning"
  | .error => "error"
  | .noData => "nodata"

/-- The verdict of a word of a report. -/
def Verdict.ofLabel? : String → Option Verdict
  | "success" => some .success
  | "warning" => some .warning
  | "error" => some .error
  | "nodata" => some .noData
  | _ => none

/-- How many checks ended in each verdict. -/
structure Tally where
  /-- Passed checks. -/
  successes : UInt32 := 0
  /-- Failed checks that count as warnings. -/
  warnings : UInt32 := 0
  /-- Failed checks that count as errors. -/
  errors : UInt32 := 0
  /-- Checks without data. -/
  noData : UInt32 := 0
deriving DecidableEq, Inhabited

namespace Tally

/-- Count one more check. -/
def add (t : Tally) : Verdict → Tally
  | .success => { t with successes := t.successes + 1 }
  | .warning => { t with warnings := t.warnings + 1 }
  | .error => { t with errors := t.errors + 1 }
  | .noData => { t with noData := t.noData + 1 }

/-- Count the checks of both tallies. -/
def append (t u : Tally) : Tally where
  successes := t.successes + u.successes
  warnings := t.warnings + u.warnings
  errors := t.errors + u.errors
  noData := t.noData + u.noData

instance : Append Tally := ⟨append⟩

/-- The tally of a list of verdicts. -/
def ofVerdicts (l : List Verdict) : Tally :=
  l.foldl add {}

/-- The number of all checks counted. -/
def total (t : Tally) : UInt32 :=
  t.successes + t.warnings + t.errors + t.noData

/-- The fields of a tally in a report. -/
def fields (t : Tally) : List (String × Json) :=
  [("Successes", .count t.successes), ("Warnings", .count t.warnings),
    ("Errors", .count t.errors), ("NoDatas", .count t.noData)]

/-- A tally on its own in a report. -/
def toJson (t : Tally) : Json := .object t.fields

end Tally

end ClusterAudit
