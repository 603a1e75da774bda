import ClusterAudit.FileTree
import ClusterAudit.Kubernetes.Failure
import ClusterAudit.Snapshot.Manifest

/-!
# Snapshots from files

A snapshot is read from one file of any name, or from the files of a directory that have one of
three extensions, in the order of their names. Directories inside it are not looked at. The
first file that cannot be read, or is no manifest, is the fault of the whole.
-/

namespace ClusterAudit

/-- Why there is no snapshot. -/
inductive SnapshotFault where
  /-- A file cannot be read. -/
  | unreadable (path : String) (cause : FileFault)
  /-- A file is no manifest. -/
  | malformed (path : String)
  /-- The server of the cluster did not give what it was asked for. -/
  | api (cause : ApiFault)
  /-- Nothing says where the server of the cluster is. -/
  | noKubeconfig
deriving DecidableEq, Inhabited

/-- The words for a snapshot that cannot be had. -/
def SnapshotFault.message : SnapshotFault → String
  | .unreadable path cause => "failed to read " ++ path ++ ": " ++ cause.message
  | .malformed path => "failed to parse manifest " ++ path
  | .api cause => "kubernetes api error: " ++ cause.message
  | .noKubeconfig => "failed to load kubeconfig"

namespace Snapshot

/-- The extension of a file name: what stands behind its last point, unless that is its first
character. -/
def extension? (name : String) : Option String :=
  match Text.pieces '.' name.toList with
  | [] => none
  | [_] => none
  | [[], _] => none
  | l => l.getLast?.map String.ofList

/-- Whether a file of this name is read from a directory. -/
def isManifestName (name : String) : Bool :=
  match extension? name with
  | some e => e == "yaml" || e == "yml" || e == "json"
  | none => false

/-- The path of an entry of a directory. -/
def entryPath (directory name : String) : String :=
  if directory.toList.getLast? == some '/' then directory ++ name else directory ++ "/" ++ name

/-- Whether an entry of a directory is a manifest: its name has one of the extensions, and its path
leads to a file. A path that is too long leads nowhere. -/
def isManifest (t : FileTree) (directory name : String) : Bool :=
  t.isFileAt (entryPath directory name) && isManifestName name

/-- The paths of the files that a snapshot of a path is read from: of a directory those of its
manifests, in order. -/
def manifestPaths (t : FileTree) (path : String) : List String :=
  match t.at? path with
  | .ok (.directory entries) =>
    (((entries.map (·.1)).filter (isManifest t path)).map (entryPath path)).mergeSort
      fun a b => a ≤ b
  | _ => [path]

/-- Add the manifest at a path. -/
def addFile (t : FileTree) (s : Snapshot) (path : String) : Except SnapshotFault Snapshot :=
  match t.readText path with
  | .error e => .error (.unreadable path e)
  | .ok text =>
    match s.addManifest text with
    | (s, true) => .ok s
    | (_, false) => .error (.malformed path)

/-- **The snapshot of a path.** -/
def ofPath (t : FileTree) (path : String) : Except SnapshotFault Snapshot :=
  (manifestPaths t path).foldlM (addFile t) { sourceName := path, sourceType := .path }

end Snapshot

end ClusterAudit
