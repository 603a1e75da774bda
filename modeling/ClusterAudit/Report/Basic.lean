import ClusterAudit.Evaluation
import ClusterAudit.Report.Score
import ClusterAudit.Report.Summary
import ClusterAudit.Vulnerability.Summary

/-!
# Reports

A report begins empty, with the name of the cluster and how many objects there are. Checks are
added to it, from the evaluation of rules and from the scans of images, and in the end
`Report.finalize` computes from them all that is derived: the summaries, the score and the grade.

Derived fields depend on nothing but the checks that are there, however often they are computed.
-/

namespace ClusterAudit

/-- What a report says about the cluster as a whole. -/
structure ClusterSummary where
  /-- Its name. -/
  name : String
  /-- The version of its server. -/
  version : String
  /-- The number of machines. -/
  nodes : Nat
  /-- The number of namespaces. -/
  namespaces : Nat
  /-- The number of pods. -/
  pods : Nat
  /-- Its score. -/
  score : Nat := 0
  /-- Its grade. -/
  grade : String := ""
deriving DecidableEq, Inhabited

/-- The summary of a cluster in JSON. -/
def ClusterSummary.toJson (c : ClusterSummary) : Json :=
  .object [("name", .string c.name), ("version", .string c.version), ("nodes", .nat c.nodes),
    ("namespaces", .nat c.namespaces), ("pods", .nat c.pods), ("score", .nat c.score),
    ("grade", .string c.grade)]

/-- The report of an audit. -/
structure Report where
  /-- The cluster as a whole. -/
  cluster : ClusterSummary
  /-- The checks. -/
  checks : List Check := []
  /-- The counts of the checks by group. -/
  groupSummary : List ResultSummary := []
  /-- The counts of the checks by namespace. -/
  namespaceSummary : List ResultSummary := []
  /-- The counts of all checks. -/
  overallSummary : ResultSummary := { name := ResultSummary.overallName }
deriving DecidableEq, Inhabited

/-! ### Where checks come from -/

namespace Check

/-- What stands in front of the names of rules and of their groups. -/
def policyMark : String := "polaris"

/-- The group of checks of images, which also stands in front of their names. -/
def imageScanGroup : String := "image-scan"

/-- The check of a finding about a resource of a kind of controller. -/
def ofFinding (kind : WorkloadKind) (resource : String) (f : Finding) : Check where
  id := policyMark ++ "." ++ f.id
  group := policyMark ++ "." ++ f.category
  category := kind.pathSegment
  resource := resource
  verdict := f.outcome.verdict

/-- **The checks of what is found about a controller**: those of its pods, then those of container
after container. -/
def ofResult (r : ControllerResult) : List Check :=
  let k : Controller := ⟨r.kind, r.namespaceName, r.name, none⟩
  r.pod.findings.map (ofFinding r.kind k.podPath)
    ++ r.pod.containers.flatMap fun c =>
      c.findings.map (ofFinding r.kind (k.containerPath c.name))

/-- The check of the image of a container. There is no data for an image without a summary. -/
def ofImage (scans : Table ScanSummary) (k : Controller) (container : Container)
    (image : String) : Check where
  id := imageScanGroup ++ "." ++ image
  group := imageScanGroup
  category := k.kind.pathSegment
  resource := k.containerPath container.name
  verdict := match scans.get? image with
    | some s => s.verdict
    | none => .noData

/-- **The checks of the images of a controller**: one for every container that names its image. -/
def ofImages (scans : Table ScanSummary) (k : Controller) : List Check :=
  k.containers.filterMap fun c => c.image?.map (ofImage scans k c)

end Check

namespace Report

/-! ### Making a report -/

/-- The report without checks of a snapshot. -/
def ofSnapshot (s : Snapshot) (displayName : Option String) : Report where
  cluster := {
    name := displayName.getD s.sourceName
    version := s.serverVersion
    nodes := s.nodes.length
    namespaces := s.namespaces.length
    pods := s.pods.length }

/-- The report with more checks at the end. -/
def addChecks (r : Report) (l : List Check) : Report :=
  { r with checks := r.checks ++ l }

/-- The report with the checks of an evaluation. -/
def addResults (r : Report) (l : List ControllerResult) : Report :=
  r.addChecks (l.flatMap Check.ofResult)

/-- The report with the checks of the images of a snapshot. -/
def addScans (r : Report) (s : Snapshot) (scans : Table ScanSummary) : Report :=
  r.addChecks (s.controllers.flatMap (Check.ofImages scans))

/-- The report without its checks. What was derived from them stays. -/
def clear (r : Report) : Report :=
  { r with checks := [] }

/-- The report with its summaries computed anew. -/
def summarize (r : Report) : Report :=
  let s := Summaries.ofChecks r.checks
  { r with
    groupSummary := s.groups.entries
    namespaceSummary := s.namespaces.entries
    overallSummary := s.overall }

/-- **The report with all that is derived from its checks**: summaries, score and grade. -/
def finalize (r : Report) : Report :=
  let r := r.summarize
  let score := r.overallSummary.counts.score
  { r with cluster := { r.cluster with score, grade := Grade.ofScore score } }

/-! ### JSON -/

/-- A report in JSON. -/
def toJson (r : Report) : Json :=
  .object [("cluster", r.cluster.toJson), ("checks", .array (r.checks.map Check.toJson)),
    ("checkGroupSummary", .array (r.groupSummary.map ResultSummary.toJson)),
    ("namespaceSummary", .array (r.namespaceSummary.map ResultSummary.toJson)),
    ("checkResultsSummary", r.overallSummary.toJson)]

end Report

end ClusterAudit
