import ClusterAudit.Text.Table
import ClusterAudit.Verdict
import ClusterAudit.Vulnerability.Scan
import ClusterAudit.Vulnerability.Severity

/-!
# Scan summaries

A summary counts the vulnerabilities of an image by severity. It is computed from a full scan
by `ScanSummary.ofScan`, or read from the scanner, whose summaries need not be in any order.

`ScanSummary.verdict` is what the audit makes of an image: no data unless the scan succeeded,
and otherwise success, an error when a severity that counts as blocking was found, and a
warning when only others were. Counters of zero do not count.
-/

namespace ClusterAudit

open Json.Record

/-- How many vulnerabilities carry one severity label. -/
structure SeverityCount where
  /-- The label. -/
  severity : String
  /-- How many carry it. -/
  count : UInt32
deriving DecidableEq, Inhabited

namespace SeverityCount

/-- The parts of a document that are read as a counter. -/
def selection : Json.Selection := .ofNames ["severity", "count"]

/-- A counter in JSON. -/
def toJson (c : SeverityCount) : Json :=
  .object [("severity", .string c.severity), ("count", .count c.count)]

/-- Read a counter; both fields must be there. -/
def ofJson? (x : Json) : Option SeverityCount := do
  match ← slots? ["severity", "count"] x with
  | [severity, count] => some { severity := ← text? severity, count := ← count? count }
  | _ => none

/-- Whether the first counter comes no later than the second by severity. -/
def le (a b : SeverityCount) : Bool :=
  Severity.le a.severity b.severity

end SeverityCount

/-- What is known about the vulnerabilities of an image. -/
structure ScanSummary where
  /-- The image. -/
  image : String
  /-- Whether it could be scanned. -/
  status : ScanStatus := .noData
  /-- What the scanner says about it. -/
  description : String := ""
  /-- The counters. -/
  counters : List SeverityCount := []
deriving DecidableEq, Inhabited

namespace ScanSummary

/-! ### JSON -/

/-- The parts of a document that are read as a summary. -/
def selection : Json.Selection :=
  .fields [("image", .everything), ("scanResult", .everything), ("description", .everything),
    ("counters", .items SeverityCount.selection)] none

/-- A summary in JSON. -/
def toJson (s : ScanSummary) : Json :=
  .object [("image", .string s.image), ("scanResult", s.status.toJson),
    ("description", .string s.description),
    ("counters", .array (s.counters.map SeverityCount.toJson))]

/-- Read a summary; only the image must be there. -/
def ofJson? (x : Json) : Option ScanSummary := do
  match ← slots? ["image", "scanResult", "description", "counters"] x with
  | [image, status, description, counters] =>
    some {
      image := ← text? image
      status := ← ScanStatus.ofSlot? status
      description := ← textOr? description
      counters := ← listOr? SeverityCount.ofJson? counters }
  | _ => none

/-! ### Counting a scan -/

/-- How many vulnerabilities of each severity a list holds, labels in upper case and in the order
of their characters. -/
def countLabels (l : List Vulnerability) : Table UInt32 :=
  l.foldl (fun t v =>
    let label := Text.upper v.severity
    t.insert label ((t.get? label).getD 0 + 1)) Table.empty

/-- The summary with its counters in order of severity, counters of one label as they came. -/
def sortCounters (s : ScanSummary) : ScanSummary :=
  { s with counters := s.counters.mergeSort SeverityCount.le }

/-- **The summary of a full scan**: one counter for every severity found, most severe first. -/
def ofScan (s : ImageScan) : ScanSummary :=
  sortCounters {
    image := s.image
    status := s.status
    description := s.description
    counters := (countLabels s.vulnerabilities).entries.map fun e => ⟨e.1, e.2⟩ }

/-- The sum of all counters. -/
def total (s : ScanSummary) : UInt32 :=
  s.counters.foldl (fun n c => n + c.count) 0

/-! ### What the audit makes of it -/

/-- The counters above zero. -/
def found (s : ScanSummary) : List SeverityCount :=
  s.counters.filter fun c => 0 < c.count

/-- **The verdict on the image.** -/
def verdict (s : ScanSummary) : Verdict :=
  if s.status ≠ .succeeded then .noData
  else if s.found.isEmpty then .success
  else if s.found.any fun c => Severity.isBlocking c.severity then .error
  else .warning

/-- There is no data exactly when the scan did not succeed. -/
theorem verdict_eq_noData {s : ScanSummary} : s.verdict = .noData ↔ s.status ≠ .succeeded := by
  rw [verdict]
  split
  next hs => simp [hs]
  next hs =>
    have hsome : s.status = .succeeded := Decidable.not_not.1 hs
    split
    · simp [hsome]
    · split
      · simp [hsome]
      · simp [hsome]

/-- The counters in words. -/
def parts (s : ScanSummary) : List String :=
  s.found.map fun c => Text.decimal c.count.toNat ++ " " ++ c.severity

/-- The verdict in words. -/
def message (s : ScanSummary) : String :=
  if s.status ≠ .succeeded then "No vulnerabilities check data"
  else if s.parts.isEmpty then "The image passed vulnerabilities check"
  else "Image has " ++ Text.join ", " s.parts ++ " known vulnerabilities"

end ScanSummary

end ClusterAudit
