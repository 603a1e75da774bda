import ClusterAudit.Rule.Catalogue
import ClusterAudit.Text.Table

/-!
# Configurations

A configuration says which rules are asked and what their failure means, which controllers and
containers are exempt from them, which namespaces are looked at, and where the scanner is. A
rule that stands in no table is never asked, which is not the same as one that passes.

`Configuration.isExempt` and `Configuration.isActive` are what an audit asks it.
-/

namespace ClusterAudit

/-- Rules that do not count for certain controllers and containers. Names are matched by how they
begin; where no names are given, all match. -/
structure Exemption where
  /-- How the names of the controllers begin. -/
  controllerNames : List String := []
  /-- How the names of the containers begin. -/
  containerNames : List String := []
  /-- The rules that do not count. -/
  rules : List String
deriving DecidableEq, Inhabited

namespace Exemption

/-- Whether the controllers of an exemption include the one called `controller`. -/
def matchesController (e : Exemption) (controller : String) : Bool :=
  e.controllerNames.isEmpty || e.controllerNames.any fun p => Text.beginsWith controller p

/-- Whether the containers of an exemption include the one called `container`. An exemption for
certain containers includes no pod as a whole. -/
def matchesContainer (e : Exemption) (container : Option String) : Bool :=
  e.containerNames.isEmpty
    || container.any fun c => e.containerNames.any fun p => Text.beginsWith c p

/-- **Whether an exemption covers a rule** for a container of a controller, or for its pod as a
whole when no container is given. -/
def covers (e : Exemption) (rule controller : String) (container : Option String) : Bool :=
  e.rules.contains rule && (e.matchesController controller && e.matchesContainer container)

end Exemption

/-- A configuration. -/
structure Configuration where
  /-- The name of the cluster in reports. -/
  displayName : Option String := none
  /-- Whether exemptions do not count. -/
  disallowExemptions : Bool := false
  /-- The namespaces that are looked at; none means all. -/
  namespacesToScan : List String := []
  /-- Where the scanner is, if there is one. -/
  scannerUrl : Option String := none
  /-- The actions of rules about rights. -/
  security : Table Action := .empty
  /-- The actions of rules about the network. -/
  networking : Table Action := .empty
  /-- The actions of rules about resources. -/
  resources : Table Action := .empty
  /-- The actions of rules about images. -/
  images : Table Action := .empty
  /-- The actions of rules about checks of health. -/
  healthChecks : Table Action := .empty
  /-- The exemptions. -/
  exemptions : List Exemption := []
deriving DecidableEq, Inhabited

namespace Configuration

/-! ### Tables of rules -/

/-- The table of a group. -/
def rules (c : Configuration) : RuleGroup → Table Action
  | .security => c.security
  | .networking => c.networking
  | .resources => c.resources
  | .images => c.images
  | .healthChecks => c.healthChecks

/-- The configuration with another table for a group. -/
def withRules (c : Configuration) (g : RuleGroup) (t : Table Action) : Configuration :=
  match g with
  | .security => { c with security := t }
  | .networking => { c with networking := t }
  | .resources => { c with resources := t }
  | .images => { c with images := t }
  | .healthChecks => { c with healthChecks := t }

/-- **The recommended configuration**: every rule with its default action and no exemptions. -/
def recommended : Configuration :=
  Rule.all.foldl (fun c r => c.withRules r.group ((c.rules r.group).insert r.id r.defaultAction)) {}

/-! ### Questions -/

/-- The action configured for a rule. -/
def action? (c : Configuration) (g : RuleGroup) (rule : String) : Option Action :=
  (c.rules g).get? rule

/-- Whether an exemption that counts covers a rule. -/
def isExempt (c : Configuration) (rule controller : String) (container : Option String) : Bool :=
  !c.disallowExemptions && c.exemptions.any fun e => e.covers rule controller container

/-- Whether a rule is asked about a container of a controller, or about its pod. -/
def isActive (c : Configuration) (g : RuleGroup) (rule controller : String)
    (container : Option String) : Bool :=
  (c.action? g rule).any Action.isActive && !c.isExempt rule controller container

/-! ### Overrides -/

/-- What a single run changes in a configuration. -/
structure Overrides where
  /-- Another name for the cluster. -/
  displayName : Option String := none
  /-- Whether exemptions do not count. -/
  disallowExemptions : Option Bool := none
  /-- Other namespaces; none means no change. -/
  namespaces : List String := []
deriving DecidableEq, Inhabited

/-- The configuration of a run. -/
def override (c : Configuration) (o : Overrides) : Configuration :=
  { c with
    displayName := o.displayName.or c.displayName
    disallowExemptions := o.disallowExemptions.getD c.disallowExemptions
    namespacesToScan := if o.namespaces.isEmpty then c.namespacesToScan else o.namespaces }

end Configuration

end ClusterAudit
