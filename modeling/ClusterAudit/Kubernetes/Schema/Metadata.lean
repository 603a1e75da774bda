import ClusterAudit.Kubernetes.Shape

/-!
# Metadata and references

The parts that objects of every kind share: their metadata, selectors of labels, references to
other objects and the conditions in a status.
-/

namespace ClusterAudit.Kubernetes.Schema

open Shape

/-- Who set which fields of an object. -/
def managedFields : Shape := .record <|
  texts ["apiVersion", "fieldsType", "manager", "operation", "subresource"] ++ times ["time"]
    ++ [("fieldsV1", .anything)]

/-- The owner of an object. -/
def ownerReference : Shape := .record <|
  texts ["apiVersion", "kind", "name", "uid"] ++ flags ["blockOwnerDeletion", "controller"]

/-- The metadata of an object. -/
def metadata : Shape := .record <|
  texts ["generateName", "name", "namespace", "resourceVersion", "selfLink", "uid"]
    ++ times ["creationTimestamp", "deletionTimestamp"]
    ++ longs ["deletionGracePeriodSeconds", "generation"]
    ++ textLists ["finalizers"] ++ textDicts ["annotations", "labels"]
    ++ [("managedFields", .list managedFields), ("ownerReferences", .list ownerReference)]

/-- A requirement that labels or fields have to meet. -/
def requirement : Shape := .record <| texts ["key", "operator"] ++ textLists ["values"]

/-- A selector of objects by their labels. -/
def labelSelector : Shape := .record <|
  textDicts ["matchLabels"] ++ [("matchExpressions", .list requirement)]

/-- An object of the same namespace by its name. -/
def localReference : Shape := .record <| texts ["name"]

/-- An object anywhere. -/
def objectReference : Shape := .record <|
  texts ["apiVersion", "fieldPath", "kind", "name", "namespace", "resourceVersion", "uid"]

/-- A condition in a status, with its timestamps. -/
def condition (timestamps : List String) : Shape := .record <|
  texts ["message", "reason", "status", "type"] ++ times timestamps

/-- The fields that every object has besides those of its kind. -/
def objectFields (version kind : String) : List (String × Shape) :=
  [("apiVersion", .exactly version), ("kind", .exactly kind), ("metadata", metadata)]

end ClusterAudit.Kubernetes.Schema
