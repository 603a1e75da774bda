import ClusterAudit.Json.Selection
import ClusterAudit.Kubernetes.Object
import ClusterAudit.Kubernetes.Schema.Workload

/-!
# Reading objects

An object is read in two steps: its value is checked against the shape of its kind, and then
the few fields that the audit looks at are picked from it. After the check nothing can be wrong
any more, so picking is total.
-/

namespace ClusterAudit.Kubernetes

open Yaml (Value)

/-! ### Picking fields -/

/-- The value of a field that is given, that is, neither missing nor null. -/
def given? (v : Value) (name : String) : Option Value :=
  (v.field? name).filter fun x => !x.isNull

/-- The value of a field, null when it is missing. -/
def fieldOf (v : Value) (name : String) : Value :=
  (v.field? name).getD .null

/-- The text of a field. -/
def text? (v : Value) (name : String) : Option String :=
  (given? v name).bind Value.asText?

/-- The truth value of a field. -/
def flag? (v : Value) (name : String) : Option Bool :=
  match (fieldOf v name).untagged with
  | .bool b => some b
  | _ => none

/-- The integer of a field. -/
def int? (v : Value) (name : String) : Option Int :=
  match (fieldOf v name).untagged with
  | .int n => some n
  | _ => none

/-- The items of a field. -/
def items (v : Value) (name : String) : List Value :=
  match (fieldOf v name).untagged with
  | .list l => l
  | _ => []

/-- The texts of a field that maps text to text. -/
def textTable (v : Value) (name : String) : Table String :=
  match (fieldOf v name).untagged with
  | .dict entries => .ofList <| entries.filterMap fun e =>
    match e.1.asText?, e.2.asText? with
    | some k, some s => some (k, s)
    | _, _ => none
  | _ => .empty

/-! ### Parts of objects -/

/-- The metadata of an object. -/
def metadataOf (v : Value) : Metadata :=
  let m := fieldOf v "metadata"
  { name := text? m "name", namespaceName := text? m "namespace", labels := textTable m "labels" }

/-- A container. -/
def containerOf (v : Value) : Container :=
  let security := fieldOf v "securityContext"
  let resources := fieldOf v "resources"
  { name := (text? v "name").getD ""
    image := text? v "image"
    imagePullPolicy := text? v "imagePullPolicy"
    hostPorts := (items v "ports").map fun p => int? p "hostPort"
    security :=
      { privileged := flag? security "privileged"
        runAsNonRoot := flag? security "runAsNonRoot"
        readOnlyRootFilesystem := flag? security "readOnlyRootFilesystem"
        allowPrivilegeEscalation := flag? security "allowPrivilegeEscalation" }
    requests := textTable resources "requests"
    limits := textTable resources "limits"
    hasReadinessProbe := (given? v "readinessProbe").isSome
    hasLivenessProbe := (given? v "livenessProbe").isSome }

/-- The settings of a pod. -/
def podSpecOf (v : Value) : PodSpec :=
  { hostIPC := flag? v "hostIPC"
    hostPID := flag? v "hostPID"
    hostNetwork := flag? v "hostNetwork"
    runAsNonRoot := flag? (fieldOf v "securityContext") "runAsNonRoot"
    initContainers := (items v "initContainers").map containerOf
    containers := (items v "containers").map containerOf }

/-- Where the settings of its pods stand in an object of a kind. -/
def podSpecPath : WorkloadKind → List String
  | .cronJob => ["spec", "jobTemplate", "spec", "template"]
  | _ => ["spec", "template"]

/-- The settings of the pods of an object. -/
def templateSpec? (kind : WorkloadKind) (v : Value) : Option PodSpec :=
  (given? ((podSpecPath kind).foldl fieldOf v) "spec").map podSpecOf

/-! ### Objects -/

/-- The shape of the objects of a kind. -/
def shapeOf : ObjectKind → Shape
  | .workload .deployment => Schema.deployment
  | .workload .statefulSet => Schema.statefulSet
  | .workload .daemonSet => Schema.daemonSet
  | .workload .job => Schema.job
  | .workload .cronJob => Schema.cronJob
  | .workload .replicationController => Schema.replicationController
  | .namespaceObject => Schema.namespaceObject
  | .node => Schema.node
  | .pod => Schema.pod

/-- The object of a kind that a value of the right shape describes. -/
def objectOf (kind : ObjectKind) (v : Value) : ClusterObject :=
  match kind with
  | .workload k => .workload k { metadata := metadataOf v, podSpec := templateSpec? k v }
  | .namespaceObject => .namespaceObject (metadataOf v)
  | .node => .node (metadataOf v)
  | .pod => .pod { metadata := metadataOf v, spec := (given? v "spec").map podSpecOf }

/-- **Read an object of a kind**, unless its value has the wrong shape. -/
def object? (lenient : Bool) (kind : ObjectKind) (v : Value) : Option ClusterObject :=
  if (shapeOf kind).admits lenient v then some (objectOf kind v) else none

/-! ### Values of JSON documents -/

mutual

/-- What a reader of values of a shape reads of a JSON document: of a record the fields that it
knows, and of everything else all. -/
def selectionOf : Shape → Json.Selection
  | .list item => .items (selectionOf item)
  | .dict value => .fields [] (some (selectionOf value))
  | .record fields => .fields (selectionOfFields fields) none
  | _ => .everything

/-- What is read of the fields of a record. -/
def selectionOfFields : List (String × Shape) → List (String × Json.Selection)
  | [] => []
  | (name, shape) :: rest => (name, selectionOf shape) :: selectionOfFields rest

end

mutual

/-- The value of a JSON document. -/
def valueOfJson : Json → Value
  | .null => .null
  | .bool b => .bool b
  | .int n => .int n
  | .real x => .real x
  | .string s => .text s
  | .array l => .list (valuesOfJson l)
  | .object fields => .dict (entriesOfJson fields)

/-- The values of the items of a list. -/
def valuesOfJson : List Json → List Value
  | [] => []
  | x :: xs => valueOfJson x :: valuesOfJson xs

/-- The entries of the fields of an object. -/
def entriesOfJson : List (String × Json) → List (Value × Value)
  | [] => []
  | (k, x) :: fs => (.text k, valueOfJson x) :: entriesOfJson fs

end

/-- Read the settings of a pod from a JSON document. -/
def podSpecOfJson? (x : Json) : Option PodSpec :=
  let v := valueOfJson x
  if Schema.podSpec.admits false v then some (podSpecOf v) else none

end ClusterAudit.Kubernetes
