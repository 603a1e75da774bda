import ClusterAudit.Audit

/-!
# Metrics

The program counts its audits and those that fail, and it remembers the score and the checks of
the last one that did not. Nothing but an audit changes a metric. `Metrics.render` writes them
in the text format that collectors of metrics read: families in the order of their names, and
the values of a family in the order of their labels.
-/

namespace ClusterAudit

/-- What the program counts. -/
structure Metrics where
  /-- Audits that were started. -/
  runs : Nat := 0
  /-- Audits that failed. -/
  failures : Nat := 0
  /-- The score of the last audit that did not fail. -/
  score : Nat := 0
  /-- The checks of the last audit that did not fail. -/
  checks : Option Tally := none
deriving DecidableEq, Inhabited

namespace Metrics

/-- **The metrics after an audit** with this result. -/
def record (m : Metrics) : Except AuditFault Report → Metrics
  | .error _ => { m with runs := m.runs + 1, failures := m.failures + 1 }
  | .ok r =>
    { m with
      runs := m.runs + 1
      score := r.cluster.score
      checks := some r.overallSummary.counts }

/-- A family of metrics as text: what it is, of which sort, and its values. -/
def family (name help sort : String) (values : List (String × Nat)) : String :=
  "# HELP " ++ name ++ " " ++ help ++ "\n# TYPE " ++ name ++ " " ++ sort ++ "\n"
    ++ String.join (values.map fun v => name ++ v.1 ++ " " ++ Text.decimal v.2 ++ "\n")

/-- The value of a family for a verdict. -/
def labelled (v : Verdict) (n : UInt32) : String × Nat :=
  ("\x7bresult=\"" ++ v.label ++ "\"\x7d", n.toNat)

/-- **The metrics as text.** -/
def render (m : Metrics) : String :=
  (match m.checks with
    | none => ""
    | some t => family "audit_checks" "Checks of the most recent audit by result" "gauge"
      [labelled .error t.errors, labelled .noData t.noData, labelled .success t.successes,
        labelled .warning t.warnings])
    ++ family "audit_failures_total" "Total audit runs that failed" "counter" [("", m.failures)]
    ++ family "audit_runs_total" "Total audit runs started" "counter" [("", m.runs)]
    ++ family "audit_score" "Score of the most recent successful audit (0-100)" "gauge"
      [("", m.score)]

end Metrics

end ClusterAudit
