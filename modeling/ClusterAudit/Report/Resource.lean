import ClusterAudit.Snapshot.Basic
import ClusterAudit.Text.Basic

/-!
# Paths of resources

A check of a report says what it is about by a path that begins with the namespace, as in
`/ns/shop/deployments/web/pods` for the pods of a controller and
`/ns/shop/deployments/web/containers/app` for one of its containers. `Resource.namespaceOf?` reads
the namespace back from a path; a path of another form, or with an empty namespace, has none.
-/

namespace ClusterAudit

/-- The version of the form of the paths and of the names of checks. -/
def Resource.contractVersion : Nat := 1

namespace Controller

/-- The path of a controller. -/
def path (k : Controller) : String :=
  "/ns/" ++ k.namespaceName ++ "/" ++ k.kind.pathSegment ++ "/" ++ k.name

/-- **The path of the pods of a controller.** -/
def podPath (k : Controller) : String :=
  k.path ++ "/pods"

/-- **The path of a container of a controller.** -/
def containerPath (k : Controller) (container : String) : String :=
  k.path ++ "/containers/" ++ container

end Controller

namespace Resource

/-- The namespace that a path in three pieces or more begins with. -/
def namespaceOfPieces? : List (List Char) → Option String
  | [] :: ['n', 's'] :: (c :: cs) :: _ => some (String.ofList (c :: cs))
  | _ => none

/-- **The namespace of a path.** -/
def namespaceOf? (path : String) : Option String :=
  namespaceOfPieces? (Text.pieces '/' path.toList)

end Resource

end ClusterAudit
