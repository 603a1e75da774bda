import ClusterAudit.Kubernetes.Decode
import ClusterAudit.Kubernetes.Failure
import ClusterAudit.Snapshot.Basic

/-!
# Snapshots from a cluster

The server of a cluster is asked for its version and then for the objects of nine kinds. The
snapshot holds exactly what it lists; when one request fails there is no snapshot at all.
-/

namespace ClusterAudit

namespace ClusterSource

/-! ### What is asked -/

/-- The kinds that are listed, in order. -/
def kinds : List ObjectKind :=
  WorkloadKind.all.map .workload ++ [.node, .namespaceObject, .pod]

/-- The path of the version. -/
def versionPath : String := "/version"

/-- The path of the list of a kind. -/
def listPath : ObjectKind → String
  | .workload .deployment => "/apis/apps/v1/deployments"
  | .workload .statefulSet => "/apis/apps/v1/statefulsets"
  | .workload .daemonSet => "/apis/apps/v1/daemonsets"
  | .workload .job => "/apis/batch/v1/jobs"
  | .workload .cronJob => "/apis/batch/v1/cronjobs"
  | .workload .replicationController => "/api/v1/replicationcontrollers"
  | .node => "/api/v1/nodes"
  | .namespaceObject => "/api/v1/namespaces"
  | .pod => "/api/v1/pods"

/-- All paths that are asked for. -/
def paths : List String :=
  versionPath :: kinds.map listPath

/-! ### What is answered -/

/-- The wanted parts of the document of an answer. -/
def document (wanted : Json.Selection) (reply : Reply) : Except ApiFault Json :=
  match reply with
  | .unreachable => .error .unreachable
  | .response status body =>
    if isFailure status then .error (.refused (.ofReply status body))
    else match Json.select? wanted body with
      | some x => .ok x
      | none => .error .undecodable

/-- The shape of the version of a server. -/
def versionShape : Kubernetes.Shape := .record <| Kubernetes.Shape.texts
  ["buildDate", "compiler", "gitCommit", "gitTreeState", "gitVersion", "goVersion", "major",
    "minor", "platform"]

/-- The version of a server: its two numbers with a point between them. -/
def version? (x : Json) : Option String :=
  let v := Kubernetes.valueOfJson x
  if versionShape.admits false v then
    some ((Kubernetes.text? v "major").getD "" ++ "." ++ (Kubernetes.text? v "minor").getD "")
  else none

/-- The shape of the metadata of a list. -/
def listMetadataShape : Kubernetes.Shape := .record <|
  Kubernetes.Shape.texts ["continue", "resourceVersion", "selfLink"]
    ++ Kubernetes.Shape.longs ["remainingItemCount"]

/-- The objects of a list, whose metadata must be there; no items is no objects. -/
def items? (kind : ObjectKind) (x : Json) : Option (List ClusterObject) := do
  let fields ← x.asObject?
  match fields.filter fun f => f.1 == "metadata", fields.filter fun f => f.1 == "items" with
  | [(_, metadata)], [(_, items)] =>
    if listMetadataShape.admits false (Kubernetes.valueOfJson metadata) then
      let l ← if items.isNull then some [] else items.asArray?
      l.mapM fun i => Kubernetes.object? false kind (Kubernetes.valueOfJson i)
    else none
  | _, _ => none

/-- The parts of a list that are read. Fields that are neither metadata nor items are read as a
whole, although nothing is made of them. -/
def listSelection (kind : ObjectKind) : Json.Selection :=
  .fields [("metadata", Kubernetes.selectionOf listMetadataShape),
    ("items", .items (Kubernetes.selectionOf (Kubernetes.shapeOf kind)))] (some .everything)

/-- What an answer has to be, or why it is none. -/
def decoded {α : Type} (wanted : Json.Selection) (read : Json → Option α) (reply : Reply) :
    Except ApiFault α :=
  match document wanted reply with
  | .error e => .error e
  | .ok x =>
    match read x with
    | some a => .ok a
    | none => .error .undecodable

/-- The version that a server gives. -/
def versionOf (ask : String → Except ApiFault Reply) : Except ApiFault String :=
  (ask versionPath).bind (decoded (Kubernetes.selectionOf versionShape) version?)

/-- The objects of a kind that a server lists. -/
def objectsOf (ask : String → Except ApiFault Reply) (kind : ObjectKind) :
    Except ApiFault (List ClusterObject) :=
  (ask (listPath kind)).bind (decoded (listSelection kind) (items? kind))

end ClusterSource

open ClusterSource in
/-- **The snapshot of a cluster** whose server answers the paths it is asked for. -/
def Snapshot.ofServer (ask : String → Except ApiFault Reply) (sourceName : String) :
    Except ApiFault Snapshot := do
  let version ← versionOf ask
  let lists ← kinds.mapM (objectsOf ask)
  return ({ serverVersion := version, sourceName, sourceType := .cluster } : Snapshot).addAll
    lists.flatten

end ClusterAudit
