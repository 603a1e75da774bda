import ClusterAudit.Vulnerability.Summary

/-!
# The detail view of one image

Details show every target of an image with its vulnerabilities in groups of one severity, the
most severe group first and the members of a group as the scanner listed them. The summary
stands beside them.
-/

namespace ClusterAudit

/-- The vulnerabilities of one severity. -/
structure SeverityGroup where
  /-- The severity in upper case. -/
  severity : String
  /-- The vulnerabilities, as they were listed. -/
  members : List Vulnerability
deriving DecidableEq, Inhabited

namespace SeverityGroup

/-- Put a vulnerability of the severity `label` behind the members of its group; a new group goes
to the end. -/
def place (label : String) (v : Vulnerability) : List SeverityGroup → List SeverityGroup
  | [] => [⟨label, [v]⟩]
  | g :: gs =>
    if g.severity = label then { g with members := g.members ++ [v] } :: gs
    else g :: place label v gs

/-- **The groups of a list**, most severe first. -/
def ofList (l : List Vulnerability) : List SeverityGroup :=
  (l.foldl (fun gs v => place (Text.upper v.severity) v gs) []).mergeSort fun a b =>
    Severity.le a.severity b.severity

/-- A group in JSON. -/
def toJson (g : SeverityGroup) : Json :=
  .object [("severity", .string g.severity),
    ("vulnerabilities", .array (g.members.map Vulnerability.toJson))]

end SeverityGroup

/-- A target of an image in the detail view. -/
structure TargetDetails where
  /-- The name of the target. -/
  target : String
  /-- Its vulnerabilities in groups. -/
  groups : List SeverityGroup
deriving DecidableEq, Inhabited

/-- The detail view of one image. -/
structure ScanDetails where
  /-- The image. -/
  image : String
  /-- Whether it could be scanned. -/
  status : ScanStatus
  /-- What the scanner says about it. -/
  description : String
  /-- The counts of its vulnerabilities. -/
  summary : ScanSummary
  /-- Its targets. -/
  targets : List TargetDetails
deriving DecidableEq, Inhabited

namespace ScanDetails

/-- **The detail view of a scan.** -/
def ofScan (s : ImageScan) : ScanDetails where
  image := s.image
  status := s.status
  description := s.description
  summary := ScanSummary.ofScan s
  targets := s.targets.map fun t => ⟨t.name, SeverityGroup.ofList t.vulnerabilities⟩

/-- The detail view in JSON. -/
def toJson (d : ScanDetails) : Json :=
  .object [("image", .string d.image), ("scanResult", d.status.toJson),
    ("description", .string d.description), ("summary", d.summary.toJson),
    ("targets", .array (d.targets.map fun t =>
      .object [("target", .string t.target),
        ("groups", .array (t.groups.map SeverityGroup.toJson))]))]

end ScanDetails

end ClusterAudit
