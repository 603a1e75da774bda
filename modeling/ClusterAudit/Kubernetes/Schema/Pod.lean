import ClusterAudit.Kubernetes.Schema.Volume

/-!
# Pods

Containers, the settings of a pod, its state, and the template from which controllers make
pods.
-/

namespace ClusterAudit.Kubernetes.Schema

open Shape

/-! ### Security -/

/-- The labels of the security module of the system. -/
def seLinuxOptions : Shape := .record <| texts ["level", "role", "type", "user"]

/-- The filter of system calls. -/
def seccompProfile : Shape := .record <| texts ["localhostProfile", "type"]

/-- Settings for containers of the other system. -/
def windowsOptions : Shape := .record <|
  texts ["gmsaCredentialSpec", "gmsaCredentialSpecName", "runAsUserName"] ++ flags ["hostProcess"]

/-- The settings that pods and containers share. -/
def sharedSecurity : List (String × Shape) :=
  longs ["runAsGroup", "runAsUser"] ++ flags ["runAsNonRoot"]
    ++ [("seLinuxOptions", seLinuxOptions), ("seccompProfile", seccompProfile),
      ("windowsOptions", windowsOptions)]

/-- The security settings of a pod. -/
def podSecurityContext : Shape := .record <|
  sharedSecurity ++ longs ["fsGroup"] ++ texts ["fsGroupChangePolicy"]
    ++ [("supplementalGroups", .list .int64),
      ("sysctls", .list (.record (texts ["name", "value"])))]

/-- The security settings of a container. -/
def securityContext : Shape := .record <|
  sharedSecurity ++ flags ["allowPrivilegeEscalation", "privileged", "readOnlyRootFilesystem"]
    ++ texts ["procMount"] ++ [("capabilities", .record (textLists ["add", "drop"]))]

/-! ### Containers -/

/-- A command to run. -/
def execAction : Shape := .record <| textLists ["command"]

/-- A request to send. -/
def httpGetAction : Shape := .record <|
  texts ["host", "path", "scheme"]
    ++ [("httpHeaders", .list (.record (texts ["name", "value"]))), ("port", .intOrText)]

/-- A connection to open. -/
def tcpSocketAction : Shape := .record <| texts ["host"] ++ [("port", .intOrText)]

/-- What to do when a container starts or stops. -/
def lifecycleHandler : Shape := .record
  [("exec", execAction), ("httpGet", httpGetAction), ("tcpSocket", tcpSocketAction)]

/-- A check of the health of a container. -/
def probe : Shape := .record <|
  ints ["failureThreshold", "initialDelaySeconds", "periodSeconds", "successThreshold",
      "timeoutSeconds"]
    ++ longs ["terminationGracePeriodSeconds"]
    ++ [("exec", execAction), ("grpc", .record (ints ["port"] ++ texts ["service"])),
      ("httpGet", httpGetAction), ("tcpSocket", tcpSocketAction)]

/-- A key of a map. -/
def keySelector : Shape := .record <| texts ["key", "name"] ++ flags ["optional"]

/-- An environment variable. -/
def envVar : Shape := .record <|
  texts ["name", "value"]
    ++ [("valueFrom", .record
      [("configMapKeyRef", keySelector), ("fieldRef", fieldSelector),
        ("resourceFieldRef", resourceSelector), ("secretKeyRef", keySelector)])]

/-- A map whose entries become environment variables. -/
def envSource : Shape := .record <|
  texts ["prefix"]
    ++ [("configMapRef", .record (texts ["name"] ++ flags ["optional"])),
      ("secretRef", .record (texts ["name"] ++ flags ["optional"]))]

/-- A port of a container. -/
def containerPort : Shape := .record <|
  ints ["containerPort", "hostPort"] ++ texts ["hostIP", "name", "protocol"]

/-- A volume mounted into a container. -/
def volumeMount : Shape := .record <|
  texts ["mountPath", "mountPropagation", "name", "subPath", "subPathExpr"] ++ flags ["readOnly"]

/-- The fields of a container. -/
def containerFields : List (String × Shape) :=
  texts ["image", "imagePullPolicy", "name", "terminationMessagePath", "terminationMessagePolicy",
      "workingDir"]
    ++ flags ["stdin", "stdinOnce", "tty"] ++ textLists ["args", "command"]
    ++ [("env", .list envVar), ("envFrom", .list envSource),
      ("lifecycle", .record [("postStart", lifecycleHandler), ("preStop", lifecycleHandler)]),
      ("livenessProbe", probe), ("ports", .list containerPort), ("readinessProbe", probe),
      ("resources", resourceRequirements), ("securityContext", securityContext),
      ("startupProbe", probe),
      ("volumeDevices", .list (.record (texts ["devicePath", "name"]))),
      ("volumeMounts", .list volumeMount)]

/-- A container. -/
def container : Shape := .record containerFields

/-- A container that is added to a running pod. -/
def ephemeralContainer : Shape := .record <| containerFields ++ texts ["targetContainerName"]

/-! ### Placement -/

/-- A selector of machines. -/
def nodeSelectorTerm : Shape := .record
  [("matchExpressions", .list requirement), ("matchFields", .list requirement)]

/-- Other pods to stand near to or far from. -/
def podAffinityTerm : Shape := .record <|
  texts ["topologyKey"] ++ textLists ["namespaces"]
    ++ [("labelSelector", labelSelector), ("namespaceSelector", labelSelector)]

/-- Wishes and demands about other pods. -/
def podAffinity : Shape := .record
  [("preferredDuringSchedulingIgnoredDuringExecution",
      .list (.record (ints ["weight"] ++ [("podAffinityTerm", podAffinityTerm)]))),
    ("requiredDuringSchedulingIgnoredDuringExecution", .list podAffinityTerm)]

/-- Wishes and demands about machines. -/
def nodeAffinity : Shape := .record
  [("preferredDuringSchedulingIgnoredDuringExecution",
      .list (.record (ints ["weight"] ++ [("preference", nodeSelectorTerm)]))),
    ("requiredDuringSchedulingIgnoredDuringExecution",
      .record [("nodeSelectorTerms", .list nodeSelectorTerm)])]

/-- Where a pod may run. -/
def affinity : Shape := .record
  [("nodeAffinity", nodeAffinity), ("podAffinity", podAffinity), ("podAntiAffinity", podAffinity)]

/-- A taint of machines that a pod tolerates. -/
def toleration : Shape := .record <|
  texts ["effect", "key", "operator", "value"] ++ longs ["tolerationSeconds"]

/-- How pods are spread over machines. -/
def topologySpread : Shape := .record <|
  texts ["nodeAffinityPolicy", "nodeTaintsPolicy", "topologyKey", "whenUnsatisfiable"]
    ++ ints ["maxSkew", "minDomains"] ++ textLists ["matchLabelKeys"]
    ++ [("labelSelector", labelSelector)]

/-! ### Pods -/

/-- The settings of a pod. -/
def podSpec : Shape := .record <|
  texts ["dnsPolicy", "hostname", "nodeName", "preemptionPolicy", "priorityClassName",
      "restartPolicy", "runtimeClassName", "schedulerName", "serviceAccount", "serviceAccountName",
      "subdomain"]
    ++ flags ["automountServiceAccountToken", "enableServiceLinks", "hostIPC", "hostNetwork",
      "hostPID", "hostUsers", "setHostnameAsFQDN", "shareProcessNamespace"]
    ++ ints ["priority"] ++ longs ["activeDeadlineSeconds", "terminationGracePeriodSeconds"]
    ++ textDicts ["nodeSelector", "overhead"]
    ++ [("affinity", affinity), ("containers", .list container),
      ("dnsConfig", .record <| textLists ["nameservers", "searches"]
        ++ [("options", .list (.record (texts ["name", "value"])))]),
      ("ephemeralContainers", .list ephemeralContainer),
      ("hostAliases", .list (.record (textLists ["hostnames"] ++ texts ["ip"]))),
      ("imagePullSecrets", .list localReference), ("initContainers", .list container),
      ("os", .record (texts ["name"])),
      ("readinessGates", .list (.record (texts ["conditionType"]))),
      ("resourceClaims", .list (.record <| texts ["name"]
        ++ [("source", .record (texts ["resourceClaimName", "resourceClaimTemplateName"]))])),
      ("schedulingGates", .list (.record (texts ["name"]))),
      ("securityContext", podSecurityContext), ("tolerations", .list toleration),
      ("topologySpreadConstraints", .list topologySpread), ("volumes", .list volume)]

/-- The state of a container at some moment. -/
def containerState : Shape := .record
  [("running", .record (times ["startedAt"])),
    ("terminated", .record <| texts ["containerID", "message", "reason"]
      ++ ints ["exitCode", "signal"] ++ times ["finishedAt", "startedAt"]),
    ("waiting", .record (texts ["message", "reason"]))]

/-- The state of a container. -/
def containerStatus : Shape := .record <|
  texts ["containerID", "image", "imageID", "name"] ++ flags ["ready", "started"]
    ++ ints ["restartCount"] ++ [("lastState", containerState), ("state", containerState)]

/-- The state of a pod. -/
def podStatus : Shape := .record <|
  texts ["hostIP", "message", "nominatedNodeName", "phase", "podIP", "qosClass", "reason"]
    ++ times ["startTime"]
    ++ [("conditions", .list (condition ["lastProbeTime", "lastTransitionTime"])),
      ("containerStatuses", .list containerStatus),
      ("ephemeralContainerStatuses", .list containerStatus),
      ("initContainerStatuses", .list containerStatus),
      ("podIPs", .list (.record (texts ["ip"])))]

/-- A pod. -/
def pod : Shape := .record <|
  objectFields "v1" "Pod" ++ [("spec", podSpec), ("status", podStatus)]

/-- The template of the pods of a controller. -/
def podTemplate : Shape := .record [("metadata", metadata), ("spec", podSpec)]

end ClusterAudit.Kubernetes.Schema
