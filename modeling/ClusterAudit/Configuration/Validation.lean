import ClusterAudit.Configuration.Document
import ClusterAudit.Url.Reader

/-!
# Which configurations are accepted

A configuration must not speak of rules that do not exist: a misspelt name would silently switch
a rule off. `Configuration.validate` goes through the tables of rules, the exemptions and the
address of the scanner, in this order, and reports the first thing that is wrong.
`Configuration.read` reads a text and validates what it says.
-/

namespace ClusterAudit

/-- What is wrong with a configuration. -/
inductive ConfigurationFault where
  /-- The text is no document of a configuration. -/
  | malformed
  /-- A table names a rule that its group does not have. -/
  | unknownRule (group : RuleGroup) (rule : String)
  /-- An exemption names a rule that does not exist. -/
  | unknownExemptionRule (index : Nat) (rule : String)
  /-- An exemption lists no rules. -/
  | exemptionWithoutRules (index : Nat)
  /-- An exemption is for everything. -/
  | exemptionWithoutTargets (index : Nat)
  /-- The address of the scanner is none. -/
  | invalidScannerUrl (url : String) (cause : Url.Fault)
deriving DecidableEq, Inhabited

namespace ConfigurationFault

/-- The words for what is wrong. -/
def message : ConfigurationFault → String
  | .malformed => "decoding config failed"
  | .unknownRule group rule => "unknown rule '" ++ rule ++ "' in group '" ++ group.key ++ "'"
  | .unknownExemptionRule index rule =>
    "exemption #" ++ Text.decimal index ++ " references unknown rule '" ++ rule ++ "'"
  | .exemptionWithoutRules index => "exemption #" ++ Text.decimal index ++ " lists no rules"
  | .exemptionWithoutTargets index =>
    "exemption #" ++ Text.decimal index ++ " names neither controllers nor containers"
  | .invalidScannerUrl url cause => "invalid scanner url '" ++ url ++ "': " ++ cause.message

end ConfigurationFault

namespace Configuration

/-- The first fault of a table of rules. -/
def tableFault? (c : Configuration) (g : RuleGroup) : Option ConfigurationFault :=
  ((c.rules g).keys.find? fun r => (Rule.inGroup? g r).isNone).map (.unknownRule g ·)

/-- The first fault of an exemption. -/
def exemptionFault? (index : Nat) (e : Exemption) : Option ConfigurationFault :=
  if e.rules.isEmpty then some (.exemptionWithoutRules index)
  else if e.controllerNames.isEmpty && e.containerNames.isEmpty then
    some (.exemptionWithoutTargets index)
  else (e.rules.find? fun r => (Rule.named? r).isNone).map (.unknownExemptionRule index ·)

/-- The first fault of the exemptions from the one numbered `index` on. -/
def exemptionsFault? : Nat → List Exemption → Option ConfigurationFault
  | _, [] => none
  | index, e :: es =>
    match exemptionFault? index e with
    | some f => some f
    | none => exemptionsFault? (index + 1) es

/-- The fault of the address of the scanner. -/
def scannerFault? (c : Configuration) : Option ConfigurationFault :=
  match c.scannerUrl with
  | none => none
  | some u =>
    match Url.parse u with
    | .ok _ => none
    | .error e => some (.invalidScannerUrl u e)

/-- The first fault of a configuration. -/
def fault? (c : Configuration) : Option ConfigurationFault :=
  (RuleGroup.all.findSome? c.tableFault?).or
    ((exemptionsFault? 0 c.exemptions).or c.scannerFault?)

/-- **Accept a configuration** or report its first fault. -/
def validate (c : Configuration) : Except ConfigurationFault Unit :=
  match c.fault? with
  | some f => .error f
  | none => .ok ()

/-- Read a configuration from a text and accept it. -/
def read (text : String) : Except ConfigurationFault Configuration :=
  match (Yaml.document text).toOption.bind ofNode? with
  | none => .error .malformed
  | some c =>
    match c.fault? with
    | some f => .error f
    | none => .ok c

end Configuration

end ClusterAudit
