import ClusterAudit.Kubernetes.Schema.Metadata

/-!
# Volumes

What a pod can mount: one record for every kind of storage, and the claims for storage.
-/

namespace ClusterAudit.Kubernetes.Schema

open Shape

/-- What a container or a claim asks for. -/
def resourceRequirements : Shape := .record <|
  textDicts ["limits", "requests"] ++ [("claims", .list (.record (texts ["name"])))]

/-- What a claim for storage asks for. -/
def claimSpec : Shape := .record <|
  texts ["storageClassName", "volumeMode", "volumeName"] ++ textLists ["accessModes"]
    ++ [("dataSource", .record (texts ["apiGroup", "kind", "name"])),
      ("dataSourceRef", .record (texts ["apiGroup", "kind", "name", "namespace"])),
      ("resources", resourceRequirements), ("selector", labelSelector)]

/-- The state of a claim for storage. -/
def claimStatus : Shape := .record <|
  texts ["phase", "resizeStatus"] ++ textLists ["accessModes"]
    ++ textDicts ["allocatedResources", "capacity"]
    ++ [("conditions", .list (condition ["lastProbeTime", "lastTransitionTime"]))]

/-- A claim for storage. -/
def persistentVolumeClaim : Shape := .record <|
  objectFields "v1" "PersistentVolumeClaim" ++ [("spec", claimSpec), ("status", claimStatus)]

/-- A key of a map of files, and the file it becomes. -/
def keyToPath : Shape := .record <| texts ["key", "path"] ++ ints ["mode"]

/-- A field of the pod. -/
def fieldSelector : Shape := .record <| texts ["apiVersion", "fieldPath"]

/-- An amount of a resource of a container. -/
def resourceSelector : Shape := .record <| texts ["containerName", "divisor", "resource"]

/-- A file with a field of the pod in it. -/
def downwardFile : Shape := .record <|
  texts ["path"] ++ ints ["mode"]
    ++ [("fieldRef", fieldSelector), ("resourceFieldRef", resourceSelector)]

/-- A source of files among several that are mounted together. -/
def projection : Shape := .record
  [("configMap", .record <| texts ["name"] ++ flags ["optional"] ++ [("items", .list keyToPath)]),
    ("downwardAPI", .record [("items", .list downwardFile)]),
    ("secret", .record <| texts ["name"] ++ flags ["optional"] ++ [("items", .list keyToPath)]),
    ("serviceAccountToken", .record <| texts ["audience", "path"] ++ longs ["expirationSeconds"])]

/-- The credentials that a kind of storage needs. -/
def secretRef : List (String × Shape) := [("secretRef", localReference)]

/-- Storage of the large providers of machines. -/
def cloudVolumes : List (String × Shape) :=
  [("awsElasticBlockStore",
      .record <| texts ["fsType", "volumeID"] ++ ints ["partition"] ++ flags ["readOnly"]),
    ("azureDisk",
      .record <| texts ["cachingMode", "diskName", "diskURI", "fsType", "kind"]
        ++ flags ["readOnly"]),
    ("azureFile", .record <| texts ["secretName", "shareName"] ++ flags ["readOnly"]),
    ("cinder", .record <| texts ["fsType", "volumeID"] ++ flags ["readOnly"] ++ secretRef),
    ("gcePersistentDisk",
      .record <| texts ["fsType", "pdName"] ++ ints ["partition"] ++ flags ["readOnly"]),
    ("photonPersistentDisk", .record <| texts ["fsType", "pdID"]),
    ("vsphereVolume",
      .record <| texts ["fsType", "storagePolicyID", "storagePolicyName", "volumePath"])]

/-- Storage over the network. -/
def networkVolumes : List (String × Shape) :=
  [("cephfs", .record <| texts ["path", "secretFile", "user"] ++ textLists ["monitors"]
      ++ flags ["readOnly"] ++ secretRef),
    ("fc", .record <| texts ["fsType"] ++ ints ["lun"] ++ flags ["readOnly"]
      ++ textLists ["targetWWNs", "wwids"]),
    ("flocker", .record <| texts ["datasetName", "datasetUUID"]),
    ("glusterfs", .record <| texts ["endpoints", "path"] ++ flags ["readOnly"]),
    ("iscsi", .record <| texts ["fsType", "initiatorName", "iqn", "iscsiInterface", "targetPortal"]
      ++ ints ["lun"] ++ flags ["chapAuthDiscovery", "chapAuthSession", "readOnly"]
      ++ textLists ["portals"] ++ secretRef),
    ("nfs", .record <| texts ["path", "server"] ++ flags ["readOnly"]),
    ("portworxVolume", .record <| texts ["fsType", "volumeID"] ++ flags ["readOnly"]),
    ("quobyte", .record <| texts ["group", "registry", "tenant", "user", "volume"]
      ++ flags ["readOnly"]),
    ("rbd", .record <| texts ["fsType", "image", "keyring", "pool", "user"]
      ++ textLists ["monitors"] ++ flags ["readOnly"] ++ secretRef),
    ("scaleIO", .record <| texts ["fsType", "gateway", "protectionDomain", "storageMode",
      "storagePool", "system", "volumeName"] ++ flags ["readOnly", "sslEnabled"] ++ secretRef),
    ("storageos", .record <| texts ["fsType", "volumeName", "volumeNamespace"]
      ++ flags ["readOnly"] ++ secretRef)]

/-- Storage that comes with the pod or the machine, or through a driver. -/
def otherVolumes : List (String × Shape) :=
  [("configMap", .record <| texts ["name"] ++ ints ["defaultMode"] ++ flags ["optional"]
      ++ [("items", .list keyToPath)]),
    ("csi", .record <| texts ["driver", "fsType"] ++ flags ["readOnly"]
      ++ textDicts ["volumeAttributes"] ++ [("nodePublishSecretRef", localReference)]),
    ("downwardAPI", .record <| ints ["defaultMode"] ++ [("items", .list downwardFile)]),
    ("emptyDir", .record <| texts ["medium", "sizeLimit"]),
    ("ephemeral", .record
      [("volumeClaimTemplate", .record [("metadata", metadata), ("spec", claimSpec)])]),
    ("flexVolume", .record <| texts ["driver", "fsType"] ++ textDicts ["options"]
      ++ flags ["readOnly"] ++ secretRef),
    ("gitRepo", .record <| texts ["directory", "repository", "revision"]),
    ("hostPath", .record <| texts ["path", "type"]),
    ("persistentVolumeClaim", .record <| texts ["claimName"] ++ flags ["readOnly"]),
    ("projected", .record <| ints ["defaultMode"] ++ [("sources", .list projection)]),
    ("secret", .record <| texts ["secretName"] ++ ints ["defaultMode"] ++ flags ["optional"]
      ++ [("items", .list keyToPath)])]

/-- A volume of a pod. -/
def volume : Shape := .record <|
  texts ["name"] ++ cloudVolumes ++ networkVolumes ++ otherVolumes

end ClusterAudit.Kubernetes.Schema
