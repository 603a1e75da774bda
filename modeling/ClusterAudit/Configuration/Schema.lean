import ClusterAudit.Configuration.Basic
import ClusterAudit.Json.Schema

/-!
# The schema of configurations

Editors and other tools check a configuration against its schema before the program ever reads it.
A document that is valid under `Configuration.schema` can be read; whether the rules that it names
exist is another question.
-/

namespace ClusterAudit

open JsonSchema

/-- The schema of an action. -/
def Action.schema : Definition where
  name := "Action"
  description := "What a rule does when its check fails."
  schema := .word (Action.all.map Action.label)

/-- A field with a description. -/
def Configuration.described (name description : String) (schema : JsonSchema) :
    String × Note × JsonSchema :=
  (name, { description := some description }, schema)

/-- The schema of an exemption. -/
def Exemption.schema : Definition where
  name := "Exemption"
  description := "Suppresses a set of rules for matching controllers and containers.\n\n"
    ++ "Names are matched as prefixes, so `kube-proxy` also covers `kube-proxy-gke`. "
    ++ "An empty name list matches everything on that axis."
  schema := .record
    [Configuration.described "controllerNames"
        "Controller name prefixes this exemption applies to." (.list .text),
      Configuration.described "containerNames"
        "Container name prefixes this exemption applies to." (.list .text),
      Configuration.described "rules"
        "Rule ids (e.g. `hostNetworkSet`) suppressed for the matched targets." (.list .text)]
    ["rules"]

namespace Configuration

/-- The schema of where the scanner is. -/
def scannerSchema : Definition where
  name := "ScannerSettings"
  description := "Address of the external vulnerability scanner service."
  schema := .record
    [described "url" "Base URL, e.g. `http://scanner.security.svc:8081`." .text] ["url"]

/-- The field of a table of rules. -/
def rulesField (g : RuleGroup) : String × Note × JsonSchema :=
  (g.key, {}, .dict Action.schema.use)

/-- **The schema of a configuration.** -/
def schema : Definition where
  name := "Configuration"
  description :=
    "Audit configuration: which rules run, how severe they are, and which targets are exempt.\n\n"
      ++ "A rule that is absent from its group map is never evaluated. "
      ++ "This is different from a rule that is evaluated and passes."
  schema := .record
    ([described "displayName" "Overrides the cluster name shown in the report." .textOrNull,
      ("disallowExemptions",
        { description := some "Ignore every exemption below.", default := some (.bool false) },
        .flag),
      described "namespacesToScan" "Restrict the audit to these namespaces. Empty means all."
        (.list .text),
      described "scanner"
        "Vulnerability scanner to query. When omitted, no image checks are emitted."
        (.orNull scannerSchema.use)]
      ++ RuleGroup.all.map rulesField
      ++ [("exemptions", {}, .list Exemption.schema.use)])
    []

/-- The schema of configurations as a document. -/
def schemaDocument : Json :=
  JsonSchema.document schema [Action.schema, Exemption.schema, scannerSchema]

end Configuration

end ClusterAudit
