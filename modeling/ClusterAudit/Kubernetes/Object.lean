import ClusterAudit.Text.Table

/-!
# What the audit looks at in an object

Of the many fields of an object the audit reads few: names, namespaces and labels, and of the
template of a pod the containers and the settings that rules are about. A setting that may be
left out is an option, because some rules ask whether it was given at all.
-/

namespace ClusterAudit

/-! ### Metadata -/

/-- The namespace of an object that names none. -/
def defaultNamespace : String := "default"

/-- The names and labels of an object. -/
structure Metadata where
  /-- Its name. -/
  name : Option String := none
  /-- The namespace it names. -/
  namespaceName : Option String := none
  /-- Its labels. -/
  labels : Table String := .empty
deriving DecidableEq, Inhabited

namespace Metadata

/-- The namespace an object lives in: the one it names, or the default one. -/
def effectiveNamespace (m : Metadata) : String :=
  m.namespaceName.getD defaultNamespace

/-- The name of an object, empty when it has none. -/
def displayName (m : Metadata) : String :=
  m.name.getD ""

end Metadata

/-! ### Containers and pods -/

/-- The security settings of a container. -/
structure SecurityContext where
  /-- Whether it has the rights of the machine. -/
  privileged : Option Bool := none
  /-- Whether it must not run as root. -/
  runAsNonRoot : Option Bool := none
  /-- Whether its file system cannot be written. -/
  readOnlyRootFilesystem : Option Bool := none
  /-- Whether it may gain more rights. -/
  allowPrivilegeEscalation : Option Bool := none
deriving DecidableEq, Inhabited

/-- A container in the template of a pod. -/
structure Container where
  /-- Its name. -/
  name : String := ""
  /-- The image it runs. -/
  image : Option String := none
  /-- When the image is pulled. -/
  imagePullPolicy : Option String := none
  /-- For every port, the port of the machine it takes. -/
  hostPorts : List (Option Int) := []
  /-- Its security settings. -/
  security : SecurityContext := {}
  /-- The amounts of resources it asks for. -/
  requests : Table String := .empty
  /-- The amounts of resources it may use. -/
  limits : Table String := .empty
  /-- Whether something tells when it is ready. -/
  hasReadinessProbe : Bool := false
  /-- Whether something tells that it is alive. -/
  hasLivenessProbe : Bool := false
deriving DecidableEq, Inhabited

namespace Container

/-- The image of a container, if it names one. -/
def image? (c : Container) : Option String :=
  c.image.filter fun i => !i.isEmpty

end Container

/-- The settings of a pod. -/
structure PodSpec where
  /-- Whether it shares the messages of the machine. -/
  hostIPC : Option Bool := none
  /-- Whether it shares the processes of the machine. -/
  hostPID : Option Bool := none
  /-- Whether it shares the network of the machine. -/
  hostNetwork : Option Bool := none
  /-- Whether its containers must not run as root unless they say otherwise. -/
  runAsNonRoot : Option Bool := none
  /-- The containers that run before the others. -/
  initContainers : List Container := []
  /-- The containers. -/
  containers : List Container := []
deriving DecidableEq, Inhabited

namespace PodSpec

/-- All containers, those that run first in front. -/
def allContainers (p : PodSpec) : List Container :=
  p.initContainers ++ p.containers

end PodSpec

/-- A pod. -/
structure Pod where
  /-- Its names and labels. -/
  metadata : Metadata := {}
  /-- Its settings. -/
  spec : Option PodSpec := none
deriving DecidableEq, Inhabited

/-! ### Controllers -/

/-- The kinds of objects that make pods from a template. -/
inductive WorkloadKind where
  /-- A deployment. -/
  | deployment
  /-- A stateful set. -/
  | statefulSet
  /-- A daemon set. -/
  | daemonSet
  /-- A job. -/
  | job
  /-- A job that runs on a schedule. -/
  | cronJob
  /-- A replication controller. -/
  | replicationController
deriving DecidableEq, Repr, Inhabited

namespace WorkloadKind

/-- The kinds in the order of a report. -/
def all : List WorkloadKind :=
  [.deployment, .statefulSet, .daemonSet, .job, .cronJob, .replicationController]

/-- The name of a kind in manifests and results. -/
def name : WorkloadKind → String
  | .deployment => "Deployment"
  | .statefulSet => "StatefulSet"
  | .daemonSet => "DaemonSet"
  | .job => "Job"
  | .cronJob => "CronJob"
  | .replicationController => "ReplicationController"

/-- The word for a kind in the paths of resources. -/
def pathSegment : WorkloadKind → String
  | .deployment => "deployments"
  | .statefulSet => "stateful-sets"
  | .daemonSet => "daemon-sets"
  | .job => "jobs"
  | .cronJob => "cron-jobs"
  | .replicationController => "replication-controllers"

/-- Whether pods of this kind are expected to end. -/
def runsToCompletion : WorkloadKind → Bool
  | .job => true
  | .cronJob => true
  | _ => false

end WorkloadKind

/-- An object that makes pods. -/
structure Workload where
  /-- Its names and labels. -/
  metadata : Metadata := {}
  /-- The settings of the pods it makes. -/
  podSpec : Option PodSpec := none
deriving DecidableEq, Inhabited

/-- The kinds of objects of a snapshot. -/
inductive ObjectKind where
  /-- One of the kinds that make pods. -/
  | workload (kind : WorkloadKind)
  /-- A namespace. -/
  | namespaceObject
  /-- A machine of the cluster. -/
  | node
  /-- A pod. -/
  | pod
deriving DecidableEq, Inhabited

/-- The kind called `name`. -/
def ObjectKind.ofName? (name : String) : Option ObjectKind :=
  match name with
  | "Namespace" => some .namespaceObject
  | "Node" => some .node
  | "Pod" => some .pod
  | _ => (WorkloadKind.all.find? fun k => k.name == name).map .workload

/-- An object of a snapshot. -/
inductive ClusterObject where
  /-- An object that makes pods. -/
  | workload (kind : WorkloadKind) (w : Workload)
  /-- A namespace. -/
  | namespaceObject (m : Metadata)
  /-- A machine. -/
  | node (m : Metadata)
  /-- A pod. -/
  | pod (p : Pod)
deriving DecidableEq, Inhabited

end ClusterAudit
