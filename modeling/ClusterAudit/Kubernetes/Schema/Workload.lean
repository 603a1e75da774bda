import ClusterAudit.Kubernetes.Schema.Pod

/-!
# Controllers, namespaces and nodes

The six kinds of controllers whose pods are audited, and the two kinds of objects that are only
counted.
-/

namespace ClusterAudit.Kubernetes.Schema

open Shape

/-- How many pods may be missing or too many during an update. -/
def rolling (names : List String) : Shape := .record <| names.map (·, .intOrText)

/-- A deployment. -/
def deployment : Shape := .record <|
  objectFields "apps/v1" "Deployment"
    ++ [("spec", .record <|
        ints ["minReadySeconds", "progressDeadlineSeconds", "replicas", "revisionHistoryLimit"]
          ++ flags ["paused"]
          ++ [("selector", labelSelector), ("template", podTemplate),
            ("strategy", .record <| texts ["type"]
              ++ [("rollingUpdate", rolling ["maxSurge", "maxUnavailable"])])]),
      ("status", .record <|
        ints ["availableReplicas", "collisionCount", "readyReplicas", "replicas",
            "unavailableReplicas", "updatedReplicas"]
          ++ longs ["observedGeneration"]
          ++ [("conditions", .list (condition ["lastTransitionTime", "lastUpdateTime"]))])]

/-- A stateful set. -/
def statefulSet : Shape := .record <|
  objectFields "apps/v1" "StatefulSet"
    ++ [("spec", .record <|
        ints ["minReadySeconds", "replicas", "revisionHistoryLimit"]
          ++ texts ["podManagementPolicy", "serviceName"]
          ++ [("ordinals", .record (ints ["start"])),
            ("persistentVolumeClaimRetentionPolicy", .record (texts ["whenDeleted", "whenScaled"])),
            ("selector", labelSelector), ("template", podTemplate),
            ("updateStrategy", .record <| texts ["type"]
              ++ [("rollingUpdate", .record <| ints ["partition"]
                ++ [("maxUnavailable", .intOrText)])]),
            ("volumeClaimTemplates", .list persistentVolumeClaim)]),
      ("status", .record <|
        ints ["availableReplicas", "collisionCount", "currentReplicas", "readyReplicas",
            "replicas", "updatedReplicas"]
          ++ longs ["observedGeneration"] ++ texts ["currentRevision", "updateRevision"]
          ++ [("conditions", .list (condition ["lastTransitionTime"]))])]

/-- A daemon set. -/
def daemonSet : Shape := .record <|
  objectFields "apps/v1" "DaemonSet"
    ++ [("spec", .record <|
        ints ["minReadySeconds", "revisionHistoryLimit"]
          ++ [("selector", labelSelector), ("template", podTemplate),
            ("updateStrategy", .record <| texts ["type"]
              ++ [("rollingUpdate", rolling ["maxSurge", "maxUnavailable"])])]),
      ("status", .record <|
        ints ["collisionCount", "currentNumberScheduled", "desiredNumberScheduled",
            "numberAvailable", "numberMisscheduled", "numberReady", "numberUnavailable",
            "updatedNumberScheduled"]
          ++ longs ["observedGeneration"]
          ++ [("conditions", .list (condition ["lastTransitionTime"]))])]

/-- What makes a job give up on a pod. -/
def podFailureRule : Shape := .record <|
  texts ["action"]
    ++ [("onExitCodes", .record <| texts ["containerName", "operator"]
        ++ [("values", .list .int32)]),
      ("onPodConditions", .list (.record (texts ["status", "type"])))]

/-- The settings of a job. -/
def jobSpec : Shape := .record <|
  ints ["backoffLimit", "completions", "parallelism", "ttlSecondsAfterFinished"]
    ++ longs ["activeDeadlineSeconds"] ++ texts ["completionMode"]
    ++ flags ["manualSelector", "suspend"]
    ++ [("podFailurePolicy", .record [("rules", .list podFailureRule)]),
      ("selector", labelSelector), ("template", podTemplate)]

/-- A job. -/
def job : Shape := .record <|
  objectFields "batch/v1" "Job"
    ++ [("spec", jobSpec),
      ("status", .record <|
        ints ["active", "failed", "ready", "succeeded"] ++ texts ["completedIndexes"]
          ++ times ["completionTime", "startTime"]
          ++ [("conditions", .list (condition ["lastProbeTime", "lastTransitionTime"])),
            ("uncountedTerminatedPods", .record (textLists ["failed", "succeeded"]))])]

/-- A job that runs on a schedule. -/
def cronJob : Shape := .record <|
  objectFields "batch/v1" "CronJob"
    ++ [("spec", .record <|
        texts ["concurrencyPolicy", "schedule", "timeZone"] ++ flags ["suspend"]
          ++ ints ["failedJobsHistoryLimit", "successfulJobsHistoryLimit"]
          ++ longs ["startingDeadlineSeconds"]
          ++ [("jobTemplate", .record [("metadata", metadata), ("spec", jobSpec)])]),
      ("status", .record <|
        times ["lastScheduleTime", "lastSuccessfulTime"] ++ [("active", .list objectReference)])]

/-- A replication controller. -/
def replicationController : Shape := .record <|
  objectFields "v1" "ReplicationController"
    ++ [("spec", .record <|
        ints ["minReadySeconds", "replicas"] ++ textDicts ["selector"]
          ++ [("template", podTemplate)]),
      ("status", .record <|
        ints ["availableReplicas", "fullyLabeledReplicas", "readyReplicas", "replicas"]
          ++ longs ["observedGeneration"]
          ++ [("conditions", .list (condition ["lastTransitionTime"]))])]

/-- A namespace. -/
def namespaceObject : Shape := .record <|
  objectFields "v1" "Namespace"
    ++ [("spec", .record (textLists ["finalizers"])),
      ("status", .record <| texts ["phase"]
        ++ [("conditions", .list (condition ["lastTransitionTime"]))])]

/-- Where the settings of a node come from. -/
def nodeConfigSource : Shape := .record
  [("configMap", .record <|
    texts ["kubeletConfigKey", "name", "namespace", "resourceVersion", "uid"])]

/-- A node. -/
def node : Shape := .record <|
  objectFields "v1" "Node"
    ++ [("spec", .record <|
        texts ["externalID", "podCIDR", "providerID"] ++ textLists ["podCIDRs"]
          ++ flags ["unschedulable"]
          ++ [("configSource", nodeConfigSource),
            ("taints", .list (.record (texts ["effect", "key", "value"] ++ times ["timeAdded"])))]),
      ("status", .record <|
        texts ["phase"] ++ textDicts ["allocatable", "capacity"] ++ textLists ["volumesInUse"]
          ++ [("addresses", .list (.record (texts ["address", "type"]))),
            ("conditions", .list (condition ["lastHeartbeatTime", "lastTransitionTime"])),
            ("config", .record <| texts ["error"]
              ++ [("active", nodeConfigSource), ("assigned", nodeConfigSource),
                ("lastKnownGood", nodeConfigSource)]),
            ("daemonEndpoints", .record [("kubeletEndpoint", .record (ints ["Port"]))]),
            ("images", .list (.record (textLists ["names"] ++ longs ["sizeBytes"]))),
            ("nodeInfo", .record <| texts ["architecture", "bootID", "containerRuntimeVersion",
              "kernelVersion", "kubeProxyVersion", "kubeletVersion", "machineID",
              "operatingSystem", "osImage", "systemUUID"]),
            ("volumesAttached", .list (.record (texts ["devicePath", "name"])))])]

end ClusterAudit.Kubernetes.Schema
