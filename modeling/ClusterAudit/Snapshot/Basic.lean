import ClusterAudit.Kubernetes.Object

/-!
# Snapshots

A snapshot is what an audit looks at: the objects of a cluster at one moment, in nine lists of
one kind each. Audits do not care about the kinds of controllers one by one; for them
`Snapshot.controllers` lists all controllers in one form, kind after kind.
-/

namespace ClusterAudit

/-- Where a snapshot comes from. -/
inductive SourceType where
  /-- From a cluster. -/
  | cluster
  /-- From files. -/
  | path
  /-- From memory. -/
  | static
deriving DecidableEq, Repr, Inhabited

/-- The word for where a snapshot comes from. -/
def SourceType.label : SourceType → String
  | .cluster => "Cluster"
  | .path => "Path"
  | .static => "Static"

/-- The objects of a cluster at one moment. -/
structure Snapshot where
  /-- The version of the cluster. -/
  serverVersion : String := ""
  /-- What the snapshot is of. -/
  sourceName : String := ""
  /-- Where it comes from. -/
  sourceType : SourceType := .static
  /-- The machines. -/
  nodes : List Metadata := []
  /-- The deployments. -/
  deployments : List Workload := []
  /-- The stateful sets. -/
  statefulSets : List Workload := []
  /-- The daemon sets. -/
  daemonSets : List Workload := []
  /-- The jobs. -/
  jobs : List Workload := []
  /-- The jobs on a schedule. -/
  cronJobs : List Workload := []
  /-- The replication controllers. -/
  replicationControllers : List Workload := []
  /-- The namespaces. -/
  namespaces : List Metadata := []
  /-- The pods. -/
  pods : List Pod := []
deriving DecidableEq, Inhabited

/-- A controller as audits see it. -/
structure Controller where
  /-- Its kind. -/
  kind : WorkloadKind
  /-- The namespace it lives in. -/
  namespaceName : String
  /-- Its name. -/
  name : String
  /-- The settings of its pods. -/
  podSpec : Option PodSpec
deriving DecidableEq, Inhabited

namespace Controller

/-- An object of a kind as audits see it. -/
def ofWorkload (kind : WorkloadKind) (w : Workload) : Controller where
  kind := kind
  namespaceName := w.metadata.effectiveNamespace
  name := w.metadata.displayName
  podSpec := w.podSpec

/-- The containers of a controller's pods, those that run first in front. -/
def containers (c : Controller) : List Container :=
  match c.podSpec with
  | some p => p.allContainers
  | none => []

end Controller

namespace Snapshot

/-! ### Lists by kind -/

/-- The controllers of a kind. -/
def workloads (s : Snapshot) : WorkloadKind → List Workload
  | .deployment => s.deployments
  | .statefulSet => s.statefulSets
  | .daemonSet => s.daemonSets
  | .job => s.jobs
  | .cronJob => s.cronJobs
  | .replicationController => s.replicationControllers

/-- The snapshot with other controllers, given kind by kind. -/
def withWorkloads (s : Snapshot) (f : WorkloadKind → List Workload) : Snapshot :=
  { s with
    deployments := f .deployment
    statefulSets := f .statefulSet
    daemonSets := f .daemonSet
    jobs := f .job
    cronJobs := f .cronJob
    replicationControllers := f .replicationController }

/-- **All controllers**, kind after kind and in the order of the lists. -/
def controllers (s : Snapshot) : List Controller :=
  WorkloadKind.all.flatMap fun k => (s.workloads k).map (Controller.ofWorkload k)

/-- **The images that controllers run**, each once and in order. Pods on their own do not count. -/
def images (s : Snapshot) : List String :=
  Text.sortedDistinct (s.controllers.flatMap fun c => c.containers.filterMap Container.image?)

/-! ### Adding objects -/

/-- The snapshot with an object behind those of its kind. -/
def add (s : Snapshot) : ClusterObject → Snapshot
  | .workload k w => s.withWorkloads fun j => s.workloads j ++ (if j = k then [w] else [])
  | .namespaceObject m => { s with namespaces := s.namespaces ++ [m] }
  | .node m => { s with nodes := s.nodes ++ [m] }
  | .pod p => { s with pods := s.pods ++ [p] }

/-- The snapshot with objects behind those of their kinds. -/
def addAll (s : Snapshot) (l : List ClusterObject) : Snapshot :=
  l.foldl add s

end Snapshot

end ClusterAudit
