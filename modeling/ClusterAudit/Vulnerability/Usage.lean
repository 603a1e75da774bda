import ClusterAudit.Kubernetes.Object
import ClusterAudit.Vulnerability.Summary

/-!
# Where images run

For every summary of an image, its usage says in which pods a container runs that image, and the
namespaces and labels of these pods. Where two summaries are of one image, the first one takes
all pods and the others none.
-/

namespace ClusterAudit

namespace Pod

/-- The name of a pod with its namespace in front. -/
def qualifiedName (p : Pod) : String :=
  p.metadata.effectiveNamespace ++ "." ++ p.metadata.displayName

/-- The namespace of a pod and its labels, each as a text. -/
def attributes (p : Pod) : List String :=
  ("namespace:" ++ p.metadata.effectiveNamespace)
    :: p.metadata.labels.entries.map fun e => e.1 ++ ":" ++ e.2

/-- Whether a container of a pod runs an image. -/
def runs (image : String) (p : Pod) : Bool :=
  p.spec.any fun s => s.allContainers.any fun c => c.image == some image

end Pod

/-- An image with its summary and with where it runs. -/
structure ImageUsage where
  /-- What is known about its vulnerabilities. -/
  scan : ScanSummary
  /-- The namespaces and labels of the pods that run it, each once and in order. -/
  attributes : List String := []
  /-- The pods that run it, each once and in order. -/
  pods : List String := []
deriving DecidableEq, Inhabited

namespace ImageUsage

/-- An image with its usage in JSON. -/
def toJson (u : ImageUsage) : Json :=
  .object [("image", .string u.scan.image), ("scanResult", u.scan.status.toJson),
    ("description", .string u.scan.description),
    ("counters", .array (u.scan.counters.map SeverityCount.toJson)),
    ("attributes", Json.strings u.attributes), ("pods", Json.strings u.pods)]

/-- The usage of an image by pods. -/
def ofScan (pods : List Pod) (scan : ScanSummary) : ImageUsage :=
  let users := pods.filter (Pod.runs scan.image)
  { scan
    attributes := Text.sortedDistinct (users.flatMap Pod.attributes)
    pods := Text.sortedDistinct (users.map Pod.qualifiedName) }

/-- The usages of summaries of which those in `seen` have come before. -/
def ofScansAfter (pods : List Pod) : List String → List ScanSummary → List ImageUsage
  | _, [] => []
  | seen, scan :: rest =>
    (if seen.contains scan.image then { scan } else ofScan pods scan)
      :: ofScansAfter pods (scan.image :: seen) rest

/-- **The usages of the images of summaries**, one for every summary and in their order. -/
def ofScans (pods : List Pod) (scans : List ScanSummary) : List ImageUsage :=
  ofScansAfter pods [] scans

/-- Usages in JSON. -/
def listToJson (l : List ImageUsage) : Json :=
  .object [("images", .array (l.map toJson))]

end ImageUsage

end ClusterAudit
