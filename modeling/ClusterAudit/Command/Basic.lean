import ClusterAudit.Command.Line
import ClusterAudit.Configuration.Basic
import ClusterAudit.Report.Output

/-!
# The commands of the program

The program shows its version, checks whether a cluster can be audited, runs an audit, serves
audits, or shows a configuration and the schema of configurations. `Invocation.read` is what a
command line asks for.
-/

namespace ClusterAudit

/-- The form of the lines of the log. -/
inductive LogFormat where
  /-- Lines for people. -/
  | text
  /-- Lines for programs. -/
  | json
deriving DecidableEq, Repr, Inhabited

namespace LogFormat

/-- The word for a form of the log. -/
def label : LogFormat → String
  | .text => "text"
  | .json => "json"

/-- The forms. -/
def all : List LogFormat := [.text, .json]

/-- The form of a word. -/
def ofLabel? (word : String) : Option LogFormat :=
  all.find? fun f => f.label == word

end LogFormat

/-- What an audit is asked to do. -/
structure AuditOptions where
  /-- Where the configuration is. -/
  config : Option String := none
  /-- Where the manifests are; without them the cluster is audited. -/
  auditPath : Option String := none
  /-- The namespaces to look at. -/
  namespaces : List String := []
  /-- The form of the report. -/
  format : OutputFormat := .json
  /-- The file to write the report to. -/
  outputFile : Option String := none
  /-- The address to send the report to. -/
  outputUrl : Option String := none
  /-- The name of the cluster in the report. -/
  displayName : Option String := none
  /-- Whether exemptions do not count. -/
  disallowExemptions : Bool := false
  /-- What is asked of the report. -/
  requirement : Report.Requirement := {}
deriving DecidableEq, Inhabited

namespace AuditOptions

/-- Whether the report is printed: only when it goes nowhere else. -/
def printsReport (o : AuditOptions) : Bool :=
  o.outputFile.isNone && o.outputUrl.isNone

/-- What the options change in the configuration. -/
def overrides (o : AuditOptions) : Configuration.Overrides where
  displayName := o.displayName
  disallowExemptions := if o.disallowExemptions then some true else none
  namespaces := o.namespaces

end AuditOptions

/-- What the service is asked to do. -/
structure ServeOptions where
  /-- Where the configuration is. -/
  config : Option String := none
  /-- Where the manifests are; without them the cluster is audited. -/
  auditPath : Option String := none
  /-- The port to listen on. -/
  port : Nat := 8080
  /-- What stands in front of all paths. -/
  basePath : String := "/"
  /-- Whether exemptions do not count. -/
  disallowExemptions : Bool := false
deriving DecidableEq, Inhabited

/-- What the options change in the configuration. -/
def ServeOptions.overrides (o : ServeOptions) : Configuration.Overrides where
  disallowExemptions := if o.disallowExemptions then some true else none

/-- A command. -/
inductive Command where
  /-- Show the version. -/
  | version
  /-- Check whether the cluster can be audited. -/
  | check
  /-- Run an audit. -/
  | audit (o : AuditOptions)
  /-- Serve audits. -/
  | serve (o : ServeOptions)
  /-- Show the schema of configurations. -/
  | configSchema
  /-- Show a configuration. -/
  | configShow (config : Option String)
deriving DecidableEq, Inhabited

/-- A command with how to log. -/
structure Invocation where
  /-- The command. -/
  command : Command
  /-- What is logged. -/
  logLevel : String := "info"
  /-- The form of the log. -/
  logFormat : LogFormat := .text
deriving DecidableEq, Inhabited

namespace Command

open Line

/-! ### Options -/

/-- The options that every command has. -/
def sharedOptions : List OptionSpec :=
  [{ name := "log-level", kind := .single .text },
    { name := "log-format", kind := .single (.choice (LogFormat.all.map LogFormat.label)) },
    { name := "help", letter := some 'h', kind := .help }]

/-- A command with the shared options and its own. -/
def spec (name : String) (options : List OptionSpec) (commands : List CommandSpec) :
    CommandSpec where
  name := name
  options := sharedOptions ++ options
  commands := commands

/-- The option that says where the configuration is. -/
def configOption : OptionSpec where
  name := "config"
  kind := .single .text

/-- The option that says where the manifests are. -/
def auditPathOption : OptionSpec where
  name := "audit-path"
  kind := .single .path

/-- The option without which exemptions count. -/
def disallowOption : OptionSpec where
  name := "disallow-exemptions"
  kind := .flag

/-- The options of an audit. -/
def auditSpec : CommandSpec :=
  spec "audit"
    [configOption, auditPathOption, disallowOption,
      { name := "namespace", letter := some 'n', kind := .repeated .text },
      { name := "output-format"
        kind := .single (.choice (OutputFormat.all.map OutputFormat.label)) },
      { name := "output-file", kind := .single .path },
      { name := "output-url", kind := .single .text },
      { name := "display-name", kind := .single .text },
      { name := "set-exit-code-on-error", kind := .flag },
      { name := "set-exit-code-below-score", kind := .single (.number UInt32.size) }] []

/-- The options of the service. -/
def serveSpec : CommandSpec :=
  spec "serve"
    [configOption, auditPathOption, disallowOption,
      { name := "port", kind := .single (.number UInt16.size) },
      { name := "base-path", kind := .single .text }] []

/-- The commands about configurations. -/
def configSpec : CommandSpec :=
  spec "config" [] [spec "schema" [] [], spec "show" [configOption] []]

/-- The program with all its commands. -/
def program : CommandSpec :=
  spec "kube-scanners" [{ name := "version", letter := some 'V', kind := .version }]
    [spec "version" [] [], spec "check" [] [], auditSpec, serveSpec, configSpec]

/-! ### From options to commands -/

/-- The value of an option. -/
def value? (l : Level) (name : String) : Option String :=
  (l.values name).getLast?

/-- The number that is the value of an option. -/
def number? (l : Level) (name : String) : Option Nat :=
  (value? l name).bind Line.number?

/-- Whether an option is given. -/
def isGiven (l : Level) (name : String) : Bool :=
  (value? l name).isSome

/-- What an audit with these options is asked to do. -/
def auditOptions (l : Level) : AuditOptions where
  config := value? l "config"
  auditPath := value? l "audit-path"
  namespaces := l.values "namespace"
  format := ((value? l "output-format").bind OutputFormat.ofLabel?).getD .json
  outputFile := value? l "output-file"
  outputUrl := value? l "output-url"
  displayName := value? l "display-name"
  disallowExemptions := isGiven l "disallow-exemptions"
  requirement := {
    noErrors := isGiven l "set-exit-code-on-error"
    minScore := number? l "set-exit-code-below-score" }

/-- What the service with these options is asked to do. -/
def serveOptions (l : Level) : ServeOptions where
  config := value? l "config"
  auditPath := value? l "audit-path"
  port := (number? l "port").getD 8080
  basePath := (value? l "base-path").getD "/"
  disallowExemptions := isGiven l "disallow-exemptions"

/-- The command that is open innermost. -/
def ofLevel? (l : Level) : Option Command :=
  match l.command.name with
  | "version" => some .version
  | "check" => some .check
  | "audit" => some (.audit (auditOptions l))
  | "serve" => some (.serve (serveOptions l))
  | "schema" => some .configSchema
  | "show" => some (.configShow (value? l "config"))
  | _ => none

/-- The value of a shared option, the innermost one if it is given more than once. -/
def shared? (levels : List Level) (name : String) : Option String :=
  levels.findSome? fun l => value? l name

end Command

/-- **What a command line asks for.** -/
def Invocation.read (words : List String) : Except UsageFault Invocation :=
  match Line.read Command.program words with
  | .error f => .error f
  | .ok levels =>
    match levels.head?.bind Command.ofLevel? with
    | none => .error .missingSubcommand
    | some command =>
      .ok {
        command
        logLevel := (Command.shared? levels "log-level").getD "info"
        logFormat := ((Command.shared? levels "log-format").bind LogFormat.ofLabel?).getD .text }

end ClusterAudit
