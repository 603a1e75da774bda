import ClusterAudit.Rule.Basic
import ClusterAudit.Rule.Image

/-!
# The catalogue of rules

All rules, in the order in which they are asked: those about pods first. A rule is found by its
name, which is its own across all groups, or by group and name.
-/

namespace ClusterAudit

/-! ### Questions -/

namespace ContainerSite

/-- Whether the container must not run as root. Its own setting counts before that of the pod. -/
def runsAsNonRoot (s : ContainerSite) : Bool :=
  (s.container.security.runAsNonRoot.or s.pod.runAsNonRoot).getD false

/-- Whether the container takes no port of the machine. -/
def takesNoHostPort (s : ContainerSite) : Bool :=
  s.container.hostPorts.all fun p => p.all (· == 0)

/-- Whether the container asks for an amount of a resource. -/
def requests (resource : String) (s : ContainerSite) : Bool :=
  (s.container.requests.get? resource).any fun q => !q.isEmpty

/-- Whether the container is limited to an amount of a resource. -/
def limits (resource : String) (s : ContainerSite) : Bool :=
  (s.container.limits.get? resource).any fun q => !q.isEmpty

end ContainerSite

namespace Rule

/-! ### The rules -/

/-- The rules about pods. -/
def podRules : List Rule :=
  [{ id := "hostIPCSet", group := .security, defaultAction := .error
     test := .pod fun p => !p.hostIPC.getD false
     passed := "Host IPC is not configured"
     failed := "Host IPC should not be configured" },
   { id := "hostPIDSet", group := .security, defaultAction := .error
     test := .pod fun p => !p.hostPID.getD false
     passed := "Host PID is not configured"
     failed := "Host PID should not be configured" },
   { id := "hostNetworkSet", group := .networking, defaultAction := .warning
     test := .pod fun p => !p.hostNetwork.getD false
     passed := "Host network is not configured"
     failed := "Host network should not be configured" }]

/-- The rules about the rights of containers and their use of ports. -/
def accessRules : List Rule :=
  [{ id := "runAsRootAllowed", group := .security, defaultAction := .warning
     test := .container ContainerSite.runsAsNonRoot
     passed := "Is not allowed to run as root"
     failed := "Should not be allowed to run as root" },
   { id := "runAsPrivileged", group := .security, defaultAction := .error
     test := .container fun s => !s.container.security.privileged.getD false
     passed := "Not running as privileged"
     failed := "Should not be running as privileged" },
   { id := "notReadOnlyRootFileSystem", group := .security, defaultAction := .warning
     test := .container fun s => s.container.security.readOnlyRootFilesystem.getD false
     passed := "Filesystem is read only"
     failed := "Filesystem should be read only" },
   { id := "privilegeEscalationAllowed", group := .security, defaultAction := .error
     test := .container fun s => !s.container.security.allowPrivilegeEscalation.getD true
     passed := "Privilege escalation not allowed"
     failed := "Privilege escalation should not be allowed" },
   { id := "hostPortSet", group := .networking, defaultAction := .warning
     test := .container ContainerSite.takesNoHostPort
     passed := "Host port is not configured"
     failed := "Host port should not be configured" }]

/-- The rules about amounts of resources. -/
def resourceRules : List Rule :=
  [{ id := "cpuRequestsMissing", group := .resources, defaultAction := .warning
     test := .container (ContainerSite.requests "cpu")
     passed := "CPU requests are set"
     failed := "CPU requests should be set" },
   { id := "cpuLimitsMissing", group := .resources, defaultAction := .warning
     test := .container (ContainerSite.limits "cpu")
     passed := "CPU limits are set"
     failed := "CPU limits should be set" },
   { id := "memoryRequestsMissing", group := .resources, defaultAction := .warning
     test := .container (ContainerSite.requests "memory")
     passed := "Memory requests are set"
     failed := "Memory requests should be set" },
   { id := "memoryLimitsMissing", group := .resources, defaultAction := .warning
     test := .container (ContainerSite.limits "memory")
     passed := "Memory limits are set"
     failed := "Memory limits should be set" }]

/-- The rules about images and about checks of health. -/
def operationRules : List Rule :=
  [{ id := "tagNotSpecified", group := .images, defaultAction := .error
     test := .container fun s => ImageReference.isPinned (s.container.image.getD "")
     passed := "Image tag is specified"
     failed := "Image tag should be specified" },
   { id := "pullPolicyNotAlways", group := .images, defaultAction := .ignore
     test := .container fun s => s.container.imagePullPolicy == some "Always"
     passed := "Image pull policy is \"Always\""
     failed := "Image pull policy should be \"Always\"" },
   { id := "readinessProbeMissing", group := .healthChecks, defaultAction := .warning
     test := .longRunning fun s => s.container.hasReadinessProbe
     passed := "Readiness probe is configured"
     failed := "Readiness probe should be configured" },
   { id := "livenessProbeMissing", group := .healthChecks, defaultAction := .warning
     test := .longRunning fun s => s.container.hasLivenessProbe
     passed := "Liveness probe is configured"
     failed := "Liveness probe should be configured" }]

/-- **All rules** in the order in which they are asked. -/
def all : List Rule :=
  podRules ++ accessRules ++ resourceRules ++ operationRules

/-- The rule called `id`. -/
def named? (id : String) : Option Rule :=
  all.find? fun r => r.id == id

/-- The rule of a group called `id`. -/
def inGroup? (g : RuleGroup) (id : String) : Option Rule :=
  all.find? fun r => r.group == g && r.id == id

end Rule

end ClusterAudit
