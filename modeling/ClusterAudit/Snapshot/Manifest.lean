import ClusterAudit.Kubernetes.Decode
import ClusterAudit.Snapshot.Basic

/-!
# Manifests

A manifest is a text with one object or more. The kind of an object decides how it is read; null
documents and objects of other kinds are passed over. Reading stops at the first document that
is not well formed, or that has one of the kinds and not its shape, and what was read before it
stays.
-/

namespace ClusterAudit

open Yaml (Value)

namespace Manifest

/-- What a document of a manifest is. -/
inductive Reading where
  /-- An object. -/
  | object (o : ClusterObject)
  /-- Nothing that an audit looks at. -/
  | skipped
  /-- An object of the wrong shape. -/
  | wrongShape
deriving DecidableEq, Inhabited

/-- The kind that a document names under a key without a tag. -/
def kindOf? (v : Value) : Option ObjectKind :=
  ((v.entry? "kind").bind Value.asText?).bind ObjectKind.ofName?

/-- Read a document. -/
def read (v : Value) : Reading :=
  match kindOf? v with
  | none => .skipped
  | some k =>
    match Kubernetes.object? true k v with
    | some o => .object o
    | none => .wrongShape

/-- The objects of documents up to the first of the wrong shape, and whether there is one. -/
def objects : List Value → List ClusterObject × Bool
  | [] => ([], true)
  | v :: vs =>
    match read v with
    | .wrongShape => ([], false)
    | .skipped => objects vs
    | .object o =>
      let (l, fine) := objects vs
      (o :: l, fine)

/-- The objects of a text up to its first fault, and whether there is none. -/
def objectsOf (text : String) : List ClusterObject × Bool :=
  let (values, fault) := Yaml.values text
  let (l, fine) := objects values
  (l, fine && fault.isNone)

end Manifest

namespace Snapshot

/-- **Add the objects of a manifest**, those in front of its first fault, and say whether there is
none. -/
def addManifest (s : Snapshot) (text : String) : Snapshot × Bool :=
  let (l, fine) := Manifest.objectsOf text
  (s.addAll l, fine)

end Snapshot

end ClusterAudit
