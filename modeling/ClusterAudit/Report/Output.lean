import ClusterAudit.Json.Printer
import ClusterAudit.Report.Basic
import ClusterAudit.Yaml.Printer

/-!
# Handing out a report

A report is handed out as one of three texts, and a finished audit ends the program with a code
that says whether the report is good enough: errors come before a score that is too low.
-/

namespace ClusterAudit

/-- The form of a report that is handed out. -/
inductive OutputFormat where
  /-- A JSON document over several lines. -/
  | json
  /-- A YAML document. -/
  | yaml
  /-- Only the score. -/
  | score
deriving DecidableEq, Repr, Inhabited

namespace OutputFormat

/-- The formats. -/
def all : List OutputFormat := [.json, .yaml, .score]

/-- The word for a format. -/
def label : OutputFormat → String
  | .json => "json"
  | .yaml => "yaml"
  | .score => "score"

/-- The format of a word. -/
def ofLabel? (word : String) : Option OutputFormat :=
  all.find? fun f => f.label == word

/-- The type of a text in a format when it is sent. -/
def contentType : OutputFormat → String
  | .json => "application/json"
  | .yaml => "application/x-yaml"
  | .score => "text/plain"

end OutputFormat

namespace Report

/-- **A report as text.** -/
def render (r : Report) : OutputFormat → String
  | .json => r.toJson.pretty
  | .yaml => (Yaml.Node.ofJson r.toJson).render
  | .score => Text.decimal r.cluster.score

/-- What is asked of a report. -/
structure Requirement where
  /-- That no check is an error. -/
  noErrors : Bool := false
  /-- The least score. -/
  minScore : Option Nat := none
deriving DecidableEq, Inhabited

/-- The code when all is well. -/
def exitFine : Nat := 0

/-- The code when a check is an error. -/
def exitHasErrors : Nat := 3

/-- The code when the score is too low. -/
def exitBelowScore : Nat := 4

/-- **The code with which a finished audit ends.** -/
def exitCode (r : Report) (q : Requirement) : Nat :=
  if q.noErrors && 0 < r.overallSummary.counts.errors then exitHasErrors
  else if q.minScore.any fun m => r.cluster.score < m then exitBelowScore
  else exitFine

end Report

end ClusterAudit
