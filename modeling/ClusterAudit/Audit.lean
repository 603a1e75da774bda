import ClusterAudit.Report.Basic
import ClusterAudit.Scanner
import ClusterAudit.Snapshot.Filter
import ClusterAudit.Snapshot.Source
import ClusterAudit.Vulnerability.Usage

/-!
# Audits

An audit takes a snapshot, restricts it to the namespaces of the configuration, looks up the
images that are left and makes a report of what rules and scans say. `Audit.report` is the part
that needs nothing but values; `Audit.run` puts the snapshot and the lookup in front of it.

There is a report or a fault and nothing between: when the snapshot or the lookup fails, nothing
is reported at all. Without a lookup nothing is said about images.
-/

namespace ClusterAudit

/-- Why there is no report. -/
inductive AuditFault where
  /-- There is no snapshot. -/
  | snapshot (cause : SnapshotFault)
  /-- The scanner does not answer. -/
  | scanner (cause : ScannerFault)
deriving DecidableEq, Inhabited

/-- The words for an audit without a report. -/
def AuditFault.message : AuditFault → String
  | .snapshot cause => "failed to load cluster resources: " ++ cause.message
  | .scanner cause => "failed to fetch vulnerability data: " ++ cause.message

namespace Audit

/-! ### Reports -/

/-- **The report of a snapshot** that is restricted already, with the summaries of its images if
there is a scanner. -/
def report (c : Configuration) (s : Snapshot) (scans : Option (Table ScanSummary)) : Report :=
  let r := (Report.ofSnapshot s c.displayName).addResults (c.evaluate s)
  let r := match scans with
    | some t => r.addScans s t
    | none => r
  r.finalize

/-- What a fetched snapshot is for a configuration: restricted to its namespaces. -/
def view (c : Configuration) (fetched : Except SnapshotFault Snapshot) :
    Except AuditFault Snapshot :=
  match fetched with
  | .error e => .error (.snapshot e)
  | .ok s => .ok (s.restrictTo c.namespacesToScan)

/-- The summaries of the images of a snapshot, if there is a lookup. -/
def lookUp (lookup : Option Lookup) (s : Snapshot) :
    Except AuditFault (Option (Table ScanSummary)) :=
  match lookup with
  | none => .ok none
  | some l =>
    match l s.images with
    | .error e => .error (.scanner e)
    | .ok t => .ok (some t)

/-- **Run an audit** on a snapshot that was fetched or not. -/
def run (c : Configuration) (fetched : Except SnapshotFault Snapshot) (lookup : Option Lookup) :
    Except AuditFault Report :=
  match view c fetched with
  | .error e => .error e
  | .ok s =>
    match lookUp lookup s with
    | .error e => .error e
    | .ok scans => .ok (report c s scans)

/-- The request that an audit sends without waiting for its answer: that the images it looks at be
scanned again. -/
def background (c : Configuration) (fetched : Except SnapshotFault Snapshot) (s : Scanner) :
    Option Request :=
  match view c fetched with
  | .error _ => none
  | .ok v => if v.images.isEmpty then none else some (s.scanRequest v.images)

/-! ### Usages -/

/-- **The usages of the images that controllers run** and that the lookup knows, in order. -/
def imageUsage (c : Configuration) (fetched : Except SnapshotFault Snapshot) (lookup : Lookup) :
    Except AuditFault (List ImageUsage) :=
  match view c fetched with
  | .error e => .error e
  | .ok s =>
    match lookup s.images with
    | .error e => .error (.scanner e)
    | .ok t => .ok (ImageUsage.ofScans s.pods (s.images.filterMap t.get?))

end Audit

end ClusterAudit
