import ClusterAudit.Command.Basic
import ClusterAudit.Configuration.Loading
import ClusterAudit.Configuration.Schema
import ClusterAudit.Service

/-!
# Running the commands

A run of the program is a function of its command line and of what it can reach. It prints a text,
may write a file, and ends with a code; when a step fails, it names that step and ends with 1. An
audit takes its steps one after the other, and the first that fails is the last: nothing is
written after a report that could not be sent.

Serving does not end, so all that `Command.serve` says is whether it begins, and with what.
-/

namespace ClusterAudit

/-! ### Outcomes -/

/-- How a run ends. -/
structure RunOutcome where
  /-- The code. -/
  code : Nat := 0
  /-- What is printed. -/
  output : String := ""
  /-- The step that failed, if one did. -/
  fault : Option String := none
  /-- The files afterwards. -/
  files : FileTree
deriving Inhabited

namespace RunOutcome

/-- The end of a run with a step that failed. -/
def failed (files : FileTree) (output fault : String) : RunOutcome where
  code := 1
  output := output
  fault := some fault
  files := files

/-- The end of a run that only prints something. -/
def printed (files : FileTree) (output : String) : RunOutcome where
  output := output
  files := files

end RunOutcome

/-- What becomes of a run. -/
inductive Run where
  /-- It ends. -/
  | finished (o : RunOutcome)
  /-- It serves, after printing something. -/
  | serving (s : Service) (port : Nat) (output : String)

namespace Command

/-! ### Version and configuration -/

/-- The name of the program with its version. -/
def versionLine : String := "kube-scanners 0.1.0\n"

/-- What the command for the version prints. -/
def versionText : String :=
  versionLine ++ "resource path contract v" ++ Text.decimal Resource.contractVersion ++ "\n"

/-- The step of loading the configuration. -/
def loadingStep : String := "Failed to load configuration"

/-- The step of finding the scanner. -/
def scannerStep : String := "Invalid scanner URL"

/-- Show a configuration. -/
def showConfiguration (env : Surroundings) (location : Option String) : RunOutcome :=
  match Configuration.load env location with
  | .error _ => .failed env.files "" loadingStep
  | .ok c => .printed env.files c.render

/-! ### Audits -/

/-- The configuration of a run and its scanner, or the step that failed. -/
def prepare (env : Surroundings) (location : Option String) (o : Configuration.Overrides) :
    Except String (Configuration × Option Scanner) :=
  match Configuration.load env location with
  | .error _ => .error loadingStep
  | .ok c =>
    let c := c.override o
    match c.scanner with
    | .error _ => .error scannerStep
    | .ok scanner => .ok (c, scanner)

/-- The report that options ask for, or the step that failed. -/
def auditReport (env : Surroundings) (o : AuditOptions) : Except String Report :=
  match prepare env o.config o.overrides with
  | .error step => .error step
  | .ok (c, scanner) =>
    let fetched := (SnapshotSource.ofPath? o.auditPath).fetch env
    match Audit.run c fetched (scanner.map (Lookup.ofScanner env.network)) with
    | .error _ => .error "Audit failed"
    | .ok r => .ok r

/-- The request that sends a report to an address. -/
def uploadRequest (url : Url) (format : OutputFormat) (rendered : String) : Request where
  method := "POST"
  url := url
  contentType := some format.contentType
  body := rendered

/-- Send a report, if an address is given for it. -/
def upload (env : Surroundings) (o : AuditOptions) (rendered : String) :
    Except ExchangeFault Unit :=
  match o.outputUrl with
  | none => .ok ()
  | some address =>
    match Url.parse address with
    | .error e => .error (.malformed e)
    | .ok url => (env.network.send (uploadRequest url o.format rendered)).map fun _ => ()

/-- The files with the report in one of them, if a file is given for it. -/
def writeReport (env : Surroundings) (o : AuditOptions) (rendered : String) :
    Except FileFault FileTree :=
  match o.outputFile with
  | none => .ok env.files
  | some path => env.files.write path (Utf8.encode (rendered ++ "\n").toList)

/-- **Run an audit** and hand out its report. -/
def runAudit (env : Surroundings) (o : AuditOptions) : RunOutcome :=
  match auditReport env o with
  | .error step => .failed env.files "" step
  | .ok r =>
    let rendered := r.render o.format
    let output := if o.printsReport then rendered ++ "\n" else ""
    match upload env o rendered with
    | .error _ =>
      .failed env.files output ("Failed to upload report to " ++ o.outputUrl.getD "")
    | .ok () =>
      match writeReport env o rendered with
      | .error _ =>
        .failed env.files output ("Failed to write report to " ++ o.outputFile.getD "")
      | .ok files => { code := r.exitCode o.requirement, output, files }

/-! ### Checks of a cluster -/

/-- The kinds that are probed, with the words for their lists. -/
def probes : List (ObjectKind × String) :=
  [(.workload .deployment, "deployments"), (.workload .statefulSet, "statefulsets"),
    (.workload .daemonSet, "daemonsets"), (.workload .job, "jobs"),
    (.workload .cronJob, "cronjobs"),
    (.workload .replicationController, "replicationcontrollers"),
    (.namespaceObject, "namespaces"), (.node, "nodes"), (.pod, "pods")]

/-- Why the list of a kind cannot be had, if it cannot. -/
def probe (env : Surroundings) (server : Uri) (kind : ObjectKind) : Option ApiFault :=
  match ClusterSource.objectsOf (ClusterSource.ask env.network server "&limit=1") kind with
  | .ok _ => none
  | .error e => some e

/-- The line about the list of a kind. -/
def probeLine (word : String) (fault : Option ApiFault) : String :=
  let label := (word ++ " ").toList
  "  List " ++ String.ofList (label ++ List.replicate (24 - label.length) '.') ++ " "
    ++ match fault with
      | none => "OK\n"
      | some e => "FAIL (" ++ e.message ++ ")\n"

/-- The lines about all lists. -/
def probeText (env : Surroundings) (server : Uri) : String :=
  let faults := probes.map fun p => (p.2, probe env server p.1)
  let failures := (faults.filter fun f => f.2.isSome).length
  String.join (faults.map fun f => probeLine f.1 f.2)
    ++ if failures = 0 then
        "\nAll checks completed. The audit can read every kind it needs.\n"
      else "\n" ++ Text.decimal failures
        ++ " permission check(s) failed. Audits will fail until RBAC allows list.\n"

/-- What the check of a cluster begins with. -/
def checkHeading : String :=
  "Running cluster connectivity checks...\n\n  Kubeconfig .................. "

/-- The line about the connection, and what follows it. -/
def connectionText (env : Surroundings) (server : Uri) : String :=
  "  Cluster connection .......... " ++
    match ClusterSource.versionOf (ClusterSource.ask env.network server "") with
    | .error e =>
      "FAIL\n\n  Error: " ++ e.message
        ++ "\n  Hint:  Is the cluster running? Check with: kubectl cluster-info\n\n"
    | .ok v => "OK (v" ++ v ++ ")\n" ++ probeText env server

/-- **Check whether the cluster can be audited.** -/
def checkCluster (env : Surroundings) : RunOutcome :=
  match env.kubeconfig.bind Kubeconfig.server? with
  | none => .failed env.files (checkHeading ++ "FAIL\n") "Cannot load kubeconfig:"
  | some server =>
    .printed env.files (checkHeading ++ "OK\n" ++ connectionText env server)

/-! ### Serving -/

/-- The address that is listened on. -/
def listenAddress (port : Nat) : String :=
  "0.0.0.0:" ++ Text.decimal port

/-- The code of a run that cannot go on. -/
def brokenCode : Nat := 101

/-- **Begin to serve audits**, if the port is free. -/
def serveAudits (env : Surroundings) (isFree : Nat → Bool) (o : ServeOptions) : Run :=
  match prepare env o.config o.overrides with
  | .error step => .finished (.failed env.files "" step)
  | .ok (configuration, scanner) =>
    match BasePath.ofText? o.basePath with
    | none => .finished { code := brokenCode, files := env.files }
    | some base =>
      if !isFree o.port then
        .finished (.failed env.files "" ("Failed to bind HTTP server on " ++ listenAddress o.port))
      else
        .serving
          { configuration, scanner, base
            source := SnapshotSource.ofPath? o.auditPath
            surroundings := env }
          o.port
          ("Serving audit reports on http://" ++ listenAddress o.port ++ o.basePath ++ "\n")

/-! ### All commands -/

/-- Run a command. -/
def run (env : Surroundings) (isFree : Nat → Bool) : Command → Run
  | .version => .finished (.printed env.files versionText)
  | .check => .finished (checkCluster env)
  | .audit o => .finished (runAudit env o)
  | .serve o => serveAudits env isFree o
  | .configSchema =>
    .finished (.printed env.files (Configuration.schemaDocument.pretty ++ "\n"))
  | .configShow location => .finished (showConfiguration env location)

/-- The code of a command line that asks for no command. -/
def usageCode : Nat := 2

/-- What becomes of a command line that asks for no command. Texts of help are not printed here. -/
def usageOutcome (files : FileTree) : UsageFault → RunOutcome
  | .displayVersion => .printed files versionLine
  | .displayHelp => .printed files ""
  | _ => { code := usageCode, files }

/-- **Run the program** with the words of a command line. -/
def runLine (env : Surroundings) (isFree : Nat → Bool) (words : List String) : Run :=
  match Invocation.read words with
  | .error f => .finished (usageOutcome env.files f)
  | .ok i => run env isFree i.command

end Command

end ClusterAudit
