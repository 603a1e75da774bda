import ClusterAudit.Configuration.Basic

/-!
# Active rules

A configuration makes some rules of the catalogue active: those that stand in the table of their
group with an action that does something. Active rules keep the order of the catalogue, so a
report does not depend on the order in which a configuration was written.

An active rule still says nothing about what it is exempt from; `Configuration.applies` asks that.
-/

namespace ClusterAudit

/-- A rule with the action that a configuration gives it. -/
structure ActiveRule where
  /-- The rule. -/
  rule : Rule
  /-- What its failure means. -/
  action : Action

namespace Configuration

/-- The rule with its action, if it is active. -/
def activate? (c : Configuration) (r : Rule) : Option ActiveRule :=
  match c.action? r.group r.id with
  | some a => if a.isActive then some ⟨r, a⟩ else none
  | none => none

/-- **The active rules** in the order of the catalogue. -/
def activeRules (c : Configuration) : List ActiveRule :=
  Rule.all.filterMap c.activate?

/-- The active rules about pods. -/
def activePodRules (c : Configuration) : List ActiveRule :=
  c.activeRules.filter fun a => a.rule.isPodRule

/-- The active rules about containers. -/
def activeContainerRules (c : Configuration) : List ActiveRule :=
  c.activeRules.filter fun a => !a.rule.isPodRule

/-- Whether an active rule is asked about a container of a controller, or about its pod. -/
def applies (c : Configuration) (a : ActiveRule) (controller : String)
    (container : Option String) : Bool :=
  !c.isExempt a.rule.id controller container

end Configuration

end ClusterAudit
