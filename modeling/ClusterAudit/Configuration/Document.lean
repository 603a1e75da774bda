import ClusterAudit.Configuration.Basic
import ClusterAudit.Json.Basic
import ClusterAudit.Yaml.Printer
import ClusterAudit.Yaml.Typed

/-!
# Configurations as documents

`Configuration.toJson` is the document of a configuration, with what is absent or empty left
out, and `Configuration.ofNode?` reads one. Reading is strict about names: a field that is not
known, or that stands there twice, is refused, and so is an exemption without rules to list. In
a table of rules the last entry of a name counts.
-/

namespace ClusterAudit

open Yaml

namespace Action

/-- Read an action. -/
def ofNode? (n : Node) : Option Action :=
  n.word?.bind Action.ofLabel?

end Action

namespace Exemption

/-- The document of an exemption. -/
def toJson (e : Exemption) : Json :=
  .object <|
    (if e.controllerNames.isEmpty then []
      else [("controllerNames", Json.strings e.controllerNames)])
      ++ (if e.containerNames.isEmpty then []
        else [("containerNames", Json.strings e.containerNames)])
      ++ [("rules", Json.strings e.rules)]

/-- The names of the fields of an exemption. -/
def fieldNames : List String := ["controllerNames", "containerNames", "rules"]

/-- Read an exemption. -/
def ofNode? (n : Node) : Option Exemption := do
  let fields ← n.fields? fieldNames
  return {
    controllerNames := ← Node.field? fields "controllerNames" [] (Node.list? Node.text?)
    containerNames := ← Node.field? fields "containerNames" [] (Node.list? Node.text?)
    rules := ← Node.required? fields "rules" (Node.list? Node.text?) }

end Exemption

namespace Configuration

/-! ### Writing -/

/-- The document of a table of rules. -/
def tableJson (t : Table Action) : Json :=
  .object (t.entries.map fun e => (e.1, .string e.2.label))

/-- The field of a table of rules, left out when the table is empty. -/
def tableField (name : String) (t : Table Action) : List (String × Json) :=
  if t.isEmpty then [] else [(name, tableJson t)]

/-- **The document of a configuration.** -/
def toJson (c : Configuration) : Json :=
  .object <|
    (match c.displayName with
      | some s => [("displayName", .string s)]
      | none => [])
      ++ [("disallowExemptions", .bool c.disallowExemptions)]
      ++ (if c.namespacesToScan.isEmpty then []
        else [("namespacesToScan", Json.strings c.namespacesToScan)])
      ++ (match c.scannerUrl with
        | some u => [("scanner", .object [("url", .string u)])]
        | none => [])
      ++ tableField "security" c.security
      ++ tableField "networking" c.networking
      ++ tableField "resources" c.resources
      ++ tableField "images" c.images
      ++ tableField "healthChecks" c.healthChecks
      ++ (if c.exemptions.isEmpty then []
        else [("exemptions", .array (c.exemptions.map Exemption.toJson))])

/-- The text of a configuration as a document. -/
def render (c : Configuration) : String :=
  (Node.ofJson c.toJson).render

/-! ### Reading -/

/-- The names of the fields of a configuration. -/
def fieldNames : List String :=
  ["displayName", "disallowExemptions", "namespacesToScan", "scanner", "security", "networking",
    "resources", "images", "healthChecks", "exemptions"]

/-- Read a table of rules. -/
def table? (n : Node) : Option (Table Action) := do
  let entries ← n.entries?
  let actions ← entries.mapM fun e => (Action.ofNode? e.2).map fun a => (e.1, a)
  return .ofList actions

/-- Read where the scanner is. -/
def scanner? (n : Node) : Option String := do
  let fields ← n.fields? ["url"]
  Node.required? fields "url" Node.text?

/-- **Read a configuration**; no field has to be there. -/
def ofNode? (n : Node) : Option Configuration := do
  let fields ← n.fields? fieldNames
  return {
    displayName := ← Node.field? fields "displayName" none (Node.option? Node.text?)
    disallowExemptions := ← Node.field? fields "disallowExemptions" false Node.bool?
    namespacesToScan := ← Node.field? fields "namespacesToScan" [] (Node.list? Node.text?)
    scannerUrl := ← Node.field? fields "scanner" none (Node.option? scanner?)
    security := ← Node.field? fields "security" .empty table?
    networking := ← Node.field? fields "networking" .empty table?
    resources := ← Node.field? fields "resources" .empty table?
    images := ← Node.field? fields "images" .empty table?
    healthChecks := ← Node.field? fields "healthChecks" .empty table?
    exemptions := ← Node.field? fields "exemptions" [] (Node.list? Exemption.ofNode?) }

end Configuration

end ClusterAudit
