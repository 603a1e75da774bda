import ClusterAudit.Rule.Active
import ClusterAudit.Snapshot.Basic
import ClusterAudit.Verdict

/-!
# Evaluating pods

The rules that are active are asked about the settings of a pod and then about each of its
containers, those that run first in front. A rule that is exempt, or that is not about its
subject, leaves no trace at all: there is a finding for every answer and none without.

`evaluatePod` is what is found about one pod and `evaluate` what is found about all controllers
of a snapshot. The tally of a pod counts its own findings and those of its containers.
-/

namespace ClusterAudit

/-! ### Findings -/

/-- What became of a rule that was asked. -/
inductive Outcome where
  /-- It passed. -/
  | success
  /-- It failed, which is a warning. -/
  | warning
  /-- It failed, which is an error. -/
  | error
deriving DecidableEq, Repr, Inhabited

namespace Outcome

/-- The outcome as a verdict. -/
def verdict : Outcome → Verdict
  | .success => .success
  | .warning => .warning
  | .error => .error

/-- What the failure of a rule with this action is. -/
def ofFailure : Action → Outcome
  | .error => .error
  | .warning => .warning
  | .ignore => .warning

end Outcome

/-- What a rule says about its subject. -/
structure Finding where
  /-- The name of the rule. -/
  id : String
  /-- What it says. -/
  message : String
  /-- What became of it. -/
  outcome : Outcome
  /-- The heading of the rule's group. -/
  category : String
deriving DecidableEq, Inhabited

namespace Finding

/-- The finding of an active rule that passed or failed. -/
def ofAnswer (a : ActiveRule) (passed : Bool) : Finding where
  id := a.rule.id
  message := if passed then a.rule.passed else a.rule.failed
  outcome := if passed then .success else .ofFailure a.action
  category := a.rule.group.category

/-- A finding in JSON. -/
def toJson (f : Finding) : Json :=
  .object [("id", .string f.id), ("message", .string f.message),
    ("type", .string f.outcome.verdict.label), ("category", .string f.category)]

end Finding

/-- The tally of findings. -/
def Tally.ofFindings (l : List Finding) : Tally :=
  .ofVerdicts (l.map fun f => f.outcome.verdict)

/-! ### Results -/

/-- What is found about a container. -/
structure ContainerResult where
  /-- The name of the container. -/
  name : String
  /-- Whether it runs before the others. -/
  isInit : Bool
  /-- The findings. -/
  findings : List Finding
deriving DecidableEq, Inhabited

namespace ContainerResult

/-- The tally of the findings. -/
def tally (r : ContainerResult) : Tally := .ofFindings r.findings

/-- The result in JSON. -/
def toJson (r : ContainerResult) : Json :=
  .object [("name", .string r.name), ("isInit", .bool r.isInit),
    ("messages", .array (r.findings.map Finding.toJson)), ("summary", r.tally.toJson)]

end ContainerResult

/-- What is found about a pod. -/
structure PodResult where
  /-- The findings about its settings. -/
  findings : List Finding := []
  /-- What is found about its containers. -/
  containers : List ContainerResult := []
deriving DecidableEq, Inhabited

namespace PodResult

/-- The tally of all findings, added up container by container. -/
def tally (r : PodResult) : Tally :=
  r.containers.foldl (fun t c => t ++ c.tally) (.ofFindings r.findings)

/-- The result in JSON. -/
def toJson (r : PodResult) : Json :=
  .object [("messages", .array (r.findings.map Finding.toJson)),
    ("containerResults", .array (r.containers.map ContainerResult.toJson)),
    ("summary", r.tally.toJson)]

end PodResult

/-- What is found about a controller. -/
structure ControllerResult where
  /-- Its kind. -/
  kind : WorkloadKind
  /-- The namespace it lives in. -/
  namespaceName : String
  /-- Its name. -/
  name : String
  /-- What is found about its pods. -/
  pod : PodResult
deriving DecidableEq, Inhabited

/-- The result in JSON. -/
def ControllerResult.toJson (r : ControllerResult) : Json :=
  .object [("kind", .string r.kind.name), ("namespace", .string r.namespaceName),
    ("name", .string r.name), ("podResult", r.pod.toJson)]

/-! ### Evaluation -/

namespace Configuration

/-- What rules find about a subject: one finding for every rule that has an answer. -/
def findings (c : Configuration) (rules : List ActiveRule) (subject : RuleSubject)
    (controller : String) (container : Option String) : List Finding :=
  (rules.filter fun a => c.applies a controller container).filterMap fun a =>
    (a.rule.answer? subject).map (Finding.ofAnswer a)

/-- What is found about a container of a controller. -/
def evaluateContainer (c : Configuration) (controller : String) (s : ContainerSite) :
    ContainerResult where
  name := s.container.name
  isInit := s.isInit
  findings := c.findings c.activeContainerRules (.container s) controller (some s.container.name)

/-- **What is found about the pods of a controller.** -/
def evaluatePod (c : Configuration) (kind : WorkloadKind) (controller : String) (p : PodSpec) :
    PodResult where
  findings := c.findings c.activePodRules (.pod p) controller none
  containers := (p.sites kind).map (c.evaluateContainer controller)

/-- What is found about a controller; nothing when it makes no pods. -/
def evaluateController (c : Configuration) (k : Controller) : ControllerResult where
  kind := k.kind
  namespaceName := k.namespaceName
  name := k.name
  pod := match k.podSpec with
    | some p => c.evaluatePod k.kind k.name p
    | none => {}

/-- **What is found about the controllers of a snapshot**, in their order. -/
def evaluate (c : Configuration) (s : Snapshot) : List ControllerResult :=
  s.controllers.map c.evaluateController

end Configuration

end ClusterAudit
