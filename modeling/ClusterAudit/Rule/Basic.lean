import ClusterAudit.Kubernetes.Object
import ClusterAudit.Text.Basic

/-!
# Rules

A rule asks one question about the settings of a pod or about one of its containers. Rules fall
into five groups, each with a table of its own in a configuration. Some rules are only about
containers that keep running: they say nothing about containers that run first, nor about jobs.
-/

namespace ClusterAudit

/-- What happens when a rule fails. -/
inductive Action where
  /-- The rule is not asked. -/
  | ignore
  /-- A failure is a warning. -/
  | warning
  /-- A failure is an error. -/
  | error
deriving DecidableEq, Repr, Inhabited

namespace Action

/-- The word for an action. -/
def label : Action → String
  | .ignore => "ignore"
  | .warning => "warning"
  | .error => "error"

/-- The actions. -/
def all : List Action := [.ignore, .warning, .error]

/-- The action of a word. -/
def ofLabel? : String → Option Action
  | "ignore" => some .ignore
  | "warning" => some .warning
  | "error" => some .error
  | _ => none

/-- Whether a rule with this action is asked at all. -/
def isActive : Action → Bool
  | .ignore => false
  | _ => true

end Action

/-- A group of rules. -/
inductive RuleGroup where
  /-- Rights of containers. -/
  | security
  /-- Sharing of the network. -/
  | networking
  /-- Amounts of resources. -/
  | resources
  /-- Images and where they come from. -/
  | images
  /-- Checks of health. -/
  | healthChecks
deriving DecidableEq, Repr, Inhabited

namespace RuleGroup

/-- The groups in the order of a configuration. -/
def all : List RuleGroup :=
  [.security, .networking, .resources, .images, .healthChecks]

/-- The name of the group's table in a configuration. -/
def key : RuleGroup → String
  | .security => "security"
  | .networking => "networking"
  | .resources => "resources"
  | .images => "images"
  | .healthChecks => "healthChecks"

/-- The group with this table. -/
def ofKey? (k : String) : Option RuleGroup :=
  all.find? fun g => g.key == k

/-- The heading of the group in a report. -/
def category : RuleGroup → String
  | .security => "Security"
  | .networking => "Networking"
  | .resources => "Resources"
  | .images => "Images"
  | .healthChecks => "Health Checks"

end RuleGroup

/-- A container with everything around it that a rule may depend on. -/
structure ContainerSite where
  /-- The container. -/
  container : Container
  /-- The settings of its pod. -/
  pod : PodSpec
  /-- The kind of object that makes the pod. -/
  kind : WorkloadKind
  /-- Whether it runs before the other containers. -/
  isInit : Bool
deriving DecidableEq, Inhabited

namespace ContainerSite

/-- Whether the container is expected to keep running. -/
def keepsRunning (s : ContainerSite) : Bool :=
  !s.isInit && !s.kind.runsToCompletion

end ContainerSite

/-- **The containers of a pod with everything around them**, those that run first in front. -/
def PodSpec.sites (p : PodSpec) (kind : WorkloadKind) : List ContainerSite :=
  p.initContainers.map (fun c => ⟨c, p, kind, true⟩)
    ++ p.containers.map (fun c => ⟨c, p, kind, false⟩)

/-- What a rule is asked about. -/
inductive RuleSubject where
  /-- The settings of a pod. -/
  | pod (p : PodSpec)
  /-- A container. -/
  | container (s : ContainerSite)

/-- The question of a rule; the answer is whether the subject passes. -/
inductive RuleTest where
  /-- A question about the settings of a pod. -/
  | pod (passes : PodSpec → Bool)
  /-- A question about every container. -/
  | container (passes : ContainerSite → Bool)
  /-- A question about every container that keeps running. -/
  | longRunning (passes : ContainerSite → Bool)

/-- A rule. -/
structure Rule where
  /-- Its name, also in configurations and in exemptions. -/
  id : String
  /-- Its group. -/
  group : RuleGroup
  /-- What happens by default when it fails. -/
  defaultAction : Action
  /-- Its question. -/
  test : RuleTest
  /-- What a report says when it passes. -/
  passed : String
  /-- What a report says when it fails. -/
  failed : String

namespace Rule

/-- Whether a rule is about the settings of a pod. -/
def isPodRule (r : Rule) : Bool :=
  match r.test with
  | .pod _ => true
  | _ => false

/-- Whether a rule is only about containers that keep running. -/
def isLongRunning (r : Rule) : Bool :=
  match r.test with
  | .longRunning _ => true
  | _ => false

/-- **The answer of a rule**, unless it is not about the subject. -/
def answer? (r : Rule) (s : RuleSubject) : Option Bool :=
  match r.test, s with
  | .pod passes, .pod p => some (passes p)
  | .container passes, .container c => some (passes c)
  | .longRunning passes, .container c => if c.keepsRunning then some (passes c) else none
  | _, _ => none

end Rule

end ClusterAudit
