import ClusterAudit.Configuration.Validation
import ClusterAudit.Scanner
import ClusterAudit.Snapshot.Source

/-!
# Where configurations come from

A configuration is loaded from a file or over the network, which the beginning of its location
tells. Without a location it is the recommended one.
-/

namespace ClusterAudit

/-- Why no configuration could be loaded. -/
inductive LoadingFault where
  /-- The file cannot be read. -/
  | unreadable (path : String) (cause : FileFault)
  /-- It cannot be had over the network. -/
  | unfetched (url : String) (cause : ExchangeFault)
  /-- It is not accepted. -/
  | refused (cause : ConfigurationFault)
deriving DecidableEq, Inhabited

/-- The words for a configuration that cannot be loaded. -/
def LoadingFault.message : LoadingFault → String
  | .unreadable path cause => "failed to read config file " ++ path ++ ": " ++ cause.message
  | .unfetched url cause => "failed to fetch config from " ++ url ++ ": " ++ cause.message
  | .refused cause => cause.message

namespace Configuration

/-- Whether a location is on the network. -/
def isRemote (location : String) : Bool :=
  Text.beginsWith location "http://" || Text.beginsWith location "https://"

/-- The text at a location. -/
def textAt (env : Surroundings) (location : String) : Except LoadingFault String :=
  if isRemote location then
    (env.network.fetch location).mapError (.unfetched location)
  else
    (env.files.readText location).mapError (.unreadable location)

/-- **Load a configuration.** An empty location is none. -/
def load (env : Surroundings) (location : Option String) : Except LoadingFault Configuration :=
  match location.filter fun l => !l.isEmpty with
  | none => .ok recommended
  | some l =>
    match textAt env l with
    | .error e => .error e
    | .ok text => (read text).mapError .refused

/-- The scanner that a configuration names, if it names one. -/
def scanner (c : Configuration) : Except ScannerFault (Option Scanner) :=
  match c.scannerUrl with
  | none => .ok none
  | some u => (Scanner.ofUrl? u).map some

end Configuration

end ClusterAudit
