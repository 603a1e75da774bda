import ClusterAudit.Kubernetes.Kubeconfig
import ClusterAudit.Snapshot.Cluster
import ClusterAudit.Snapshot.Directory

/-!
# Where snapshots come from

An audit takes its snapshot from memory, from files or from the cluster that a file names. What a
run of the program can reach is its `Surroundings`: a directory of files and a network, and
nothing in them changes while a snapshot is taken.
-/

namespace ClusterAudit

/-- What a run of the program can reach. -/
structure Surroundings where
  /-- The files below the working directory. -/
  files : FileTree := .empty
  /-- The text of the file that names the cluster, if there is one. -/
  kubeconfig : Option String := none
  /-- The network. -/
  network : Network := Network.none

/-- Where a snapshot is taken from. -/
inductive SnapshotSource where
  /-- From memory. -/
  | static (s : Snapshot)
  /-- From the file or directory at a path. -/
  | path (p : String)
  /-- From the cluster of the surroundings. -/
  | cluster
deriving DecidableEq, Inhabited

namespace ClusterSource

/-- The address of a path on a server, with a query. -/
def address (server : Uri) (path query : String) : Uri :=
  { server with path := server.trimmedPath ++ path, query := some query }

/-- What the server answers to a request for a path. Requests are sent to an authority by a scheme,
so a server needs both. -/
def ask (net : Network) (server : Uri) (query path : String) : Except ApiFault Reply :=
  match server.scheme, server.authority with
  | none, none => .error .incomplete
  | none, some _ => .error .withoutScheme
  | some _, none => .error .incomplete
  | some scheme, some _ =>
    if !Uri.isRequestScheme scheme then .error (.otherScheme scheme)
    else match Url.parse (address server path query).text with
      | .ok url => .ok (net { method := "GET", url })
      | .error _ => .ok .unreachable

end ClusterSource

namespace SnapshotSource

/-- Where the snapshot comes from when a path is given or not. -/
def ofPath? : Option String → SnapshotSource
  | some p => .path p
  | none => .cluster

/-- **Take a snapshot.** -/
def fetch (env : Surroundings) : SnapshotSource → Except SnapshotFault Snapshot
  | .static s => .ok s
  | .path p => Snapshot.ofPath env.files p
  | .cluster =>
    match env.kubeconfig.bind Kubeconfig.server? with
    | none => .error .noKubeconfig
    | some server =>
      (Snapshot.ofServer (ClusterSource.ask env.network server "") server.text).mapError .api

end SnapshotSource

end ClusterAudit
