import ClusterAudit.Kubernetes.Shape
import ClusterAudit.Uri
import ClusterAudit.Yaml.Record

/-!
# Where the server of a cluster is

A file names clusters, users and contexts. A context pairs a cluster with a user, and one context
is the current one. Its cluster has the address of the server, and its user must be described too.
A file may be several documents, which are merged: of two entries of one name the first counts, and
of two settings the first given. All entries have to be well formed, also those that are not needed.
-/

namespace ClusterAudit

open Yaml (Value Slot FieldName)

/-- A cluster, as far as it is reached. -/
structure KubeCluster where
  /-- The address of the server. -/
  server : Option String := none
  /-- The address of a proxy. -/
  proxy : Option String := none
deriving DecidableEq, Inhabited

/-- A pair of a cluster and a user. -/
structure KubeContext where
  /-- The name of the cluster. -/
  cluster : String
  /-- The name of the user. -/
  user : String
deriving DecidableEq, Inhabited

/-- What a file says about clusters. -/
structure Kubeconfig where
  /-- The kind that it names. -/
  kind : Option String := none
  /-- The version of the format that it names. -/
  apiVersion : Option String := none
  /-- The name of the current context. -/
  currentContext : Option String := none
  /-- Names of clusters and what is said about them. -/
  clusters : List (String × Option KubeCluster) := []
  /-- Names of users and whether anything is said about them. -/
  users : List (String × Bool) := []
  /-- Names of contexts and what they pair. -/
  contexts : List (String × Option KubeContext) := []
deriving DecidableEq, Inhabited

namespace Kubeconfig

/-! ### Entries -/

/-- Fields of which only the form counts: each may be left out or be null and is else read by
`read`. -/
def checked {α : Type} (read : Value → Option α) (slots : List Slot) : Option Unit :=
  slots.forM fun s => do let _ ← s.optional read

/-- A document of any form. -/
def anything? (v : Value) : Option Unit :=
  if Kubernetes.Shape.anything.admits true v then some () else none

/-- A setting of a program other than the audit. -/
def extension? (v : Value) : Option Unit := do
  match ← v.slots? (FieldName.all ["name", "extension"]) with
  | [name, extension] =>
    let _ ← name.required Value.asText?
    extension.required anything?
  | _ => none

/-- Settings of other programs. -/
def extensions? (v : Value) : Option (List Unit) := v.listOf? extension?

/-- Settings of how output looks. -/
def preferences? (v : Value) : Option Unit := do
  match ← v.slots? (FieldName.all ["colors", "extensions"]) with
  | [colors, extensions] =>
    checked Value.asFlag? [colors]
    checked extensions? [extensions]
  | _ => none

/-- What is said about a cluster. -/
def cluster? (v : Value) : Option KubeCluster := do
  match ← v.slots? (FieldName.all ["server", "insecure-skip-tls-verify", "certificate-authority",
    "certificate-authority-data", "proxy-url", "tls-server-name", "extensions"]) with
  | [server, insecure, authority, authorityData, proxy, serverName, extensions] =>
    checked Value.asFlag? [insecure]
    checked Value.asText? [authority, authorityData, serverName]
    checked extensions? [extensions]
    return { server := ← server.optional Value.asText?, proxy := ← proxy.optional Value.asText? }
  | _ => none

/-- A provider that a user logs in with. -/
def provider? (v : Value) : Option Unit := do
  match ← v.slots? [{ name := "name" }, { name := "config", mayEnd := true }] with
  | [name, config] =>
    let _ ← name.required Value.asText?
    let _ ← config.orElse [] (Value.dictOf? Value.asText?)
  | _ => none

/-- When a command may ask for input. -/
def interactiveModes : List String := ["Never", "IfAvailable", "Always"]

/-- A command that a user logs in with. -/
def exec? (v : Value) : Option Unit := do
  match ← v.slots? (FieldName.all ["apiVersion", "command", "args", "env", "interactiveMode"]
    ++ [{ name := "provideClusterInfo", mayEnd := true }]) with
  | [version, command, arguments, environment, mode, clusterInfo] =>
    checked Value.asText? [version, command]
    checked (Value.listOf? Value.asText?) [arguments]
    checked (Value.listOf? (Value.dictOf? Value.asText?)) [environment]
    checked (Value.wordOf? interactiveModes) [mode]
    let _ ← clusterInfo.orElse false Value.asFlag?
  | _ => none

/-- The fields of what is said about a user. -/
def userFields : List FieldName :=
  [{ name := "username" }, { name := "password", mayEnd := true },
    { name := "token", mayEnd := true }, { name := "tokenFile" },
    { name := "client-certificate" }, { name := "client-certificate-data" },
    { name := "client-key" }, { name := "client-key-data", mayEnd := true }, { name := "as" },
    { name := "as-groups" }, { name := "auth-provider" }, { name := "exec" }]

/-- What is said about a user. -/
def user? (v : Value) : Option Unit := do
  match ← v.slots? userFields with
  | [username, password, token, tokenFile, certificate, certificateData, key, keyData, impersonated,
      groups, provider, exec] =>
    checked Value.asText? [username, password, token, tokenFile, certificate, certificateData, key,
      keyData, impersonated]
    checked (Value.listOf? Value.asText?) [groups]
    checked provider? [provider]
    checked exec? [exec]
  | _ => none

/-- What a context pairs. -/
def context? (v : Value) : Option KubeContext := do
  match ← v.slots? (FieldName.all ["cluster", "user", "namespace", "extensions"]) with
  | [cluster, user, namespaceName, extensions] =>
    checked Value.asText? [namespaceName]
    checked extensions? [extensions]
    return { cluster := ← cluster.required Value.asText?, user := ← user.required Value.asText? }
  | _ => none

/-- A name and what stands next to it in the field `field`. -/
def named? {α : Type} (field : String) (read : Value → Option α) (v : Value) :
    Option (String × Option α) := do
  match ← v.slots? (FieldName.all ["name", field]) with
  | [name, item] => return (← name.required Value.asText?, ← item.optional read)
  | _ => none

/-! ### Documents -/

/-- The fields of a document. -/
def documentFields : List FieldName :=
  [{ name := "preferences" }, { name := "clusters", mayEnd := true },
    { name := "users", mayEnd := true }, { name := "contexts", mayEnd := true },
    { name := "current-context" }, { name := "extensions" },
    { name := "kind" }, { name := "apiVersion" }]

/-- The named entries of a field. -/
def entries? {α : Type} (field : String) (read : Value → Option α) (s : Slot) :
    Option (List (String × Option α)) :=
  (s.optional (Value.listOf? (named? field read))).map (·.getD [])

/-- What a document says. -/
def ofValue? (v : Value) : Option Kubeconfig := do
  match ← v.slots? documentFields with
  | [preferences, clusters, users, contexts, current, extensions, kind, version] =>
    checked preferences? [preferences]
    checked extensions? [extensions]
    let users ← entries? "user" user? users
    return {
      kind := ← kind.optional Value.asText?
      apiVersion := ← version.optional Value.asText?
      currentContext := ← current.optional Value.asText?
      clusters := ← entries? "cluster" cluster? clusters
      users := users.map fun u => (u.1, u.2.isSome)
      contexts := ← entries? "context" context? contexts }
  | _ => none

/-- Whether two settings do not contradict each other. -/
def agree (a b : Option String) : Bool :=
  a.isNone || b.isNone || a == b

/-- What two documents say together, unless they contradict each other. -/
def merge? (a b : Kubeconfig) : Option Kubeconfig :=
  if agree a.kind b.kind && agree a.apiVersion b.apiVersion then
    some {
      kind := a.kind.or b.kind
      apiVersion := a.apiVersion.or b.apiVersion
      currentContext := a.currentContext.or b.currentContext
      clusters := a.clusters ++ b.clusters
      users := a.users ++ b.users
      contexts := a.contexts ++ b.contexts }
  else none

/-- What the documents of a text say together. -/
def ofText? (text : String) : Option Kubeconfig :=
  match Yaml.values text with
  | (docs, none) => do (← docs.mapM ofValue?).foldlM merge? {}
  | (_, some _) => none

/-! ### The server -/

/-- What stands next to the first entry of a name. -/
def lookup {α : Type} (entries : List (String × α)) (name : String) : Option α :=
  (entries.find? fun e => e.1 == name).map (·.2)

/-- Whether a proxy can be used: there is none, or its address is a reference. -/
def admitsProxy : Option String → Bool
  | none => true
  | some p => p.isEmpty || (Uri.parse? .sender p).isSome

/-- The server of the current context. -/
def currentServer? (c : Kubeconfig) : Option Uri := do
  let context ← (lookup c.contexts (← c.currentContext)).join
  let cluster ← (lookup c.clusters context.cluster).join
  if lookup c.users context.user = some true ∧ admitsProxy cluster.proxy then
    Uri.parse? .sender (← cluster.server)
  else none

/-- **The server** that a file names. -/
def server? (text : String) : Option Uri := do
  (← ofText? text).currentServer?

end Kubeconfig

end ClusterAudit
