import ClusterAudit.Snapshot.Basic

/-!
# Looking at some namespaces only

An audit may be restricted to some namespaces. Objects stay when they live in one of them, and
namespaces when they are one of them; machines belong to no namespace and always stay. No
namespaces at all means no restriction.
-/

namespace ClusterAudit

/-- Whether a name is one of those that are kept. A name that is empty never is. -/
def isSelected (names : List String) (name : String) : Bool :=
  !name.isEmpty && names.contains name

/-- The pods of some namespaces, or all pods when none are given. -/
def selectPods (names : List String) (pods : List Pod) : List Pod :=
  if names.isEmpty then pods
  else pods.filter fun p => isSelected names p.metadata.effectiveNamespace

namespace Snapshot

/-- **The snapshot restricted to some namespaces.** -/
def restrictTo (names : List String) (s : Snapshot) : Snapshot :=
  if names.isEmpty then s
  else
    { s.withWorkloads fun k =>
        (s.workloads k).filter fun w => isSelected names w.metadata.effectiveNamespace with
      namespaces := s.namespaces.filter fun m => isSelected names m.displayName
      pods := selectPods names s.pods }

end Snapshot

end ClusterAudit
