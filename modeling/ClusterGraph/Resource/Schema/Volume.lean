import ClusterGraph.Resource.Schema.Common

/-!
# ClusterGraph.Resource.Schema.Volume

**Shapes of storage: the sources of volumes, claims, and persistent volumes.**
-/

namespace ClusterGraph
namespace Schema

/-! ### Claims -/

/-- A `PersistentVolumeClaimSpec`, in a claim and in a volume that has a claim of its own. -/
def claimSpec : Shape :=
  .record (
    all .text ["storageClassName", "volumeAttributesClassName", "volumeMode", "volumeName"]
      ++ [("accessModes", texts), ("dataSource", textRecord ["apiGroup", "kind", "name"]),
          ("dataSourceRef", typedReference), ("resources", resources),
          ("selector", labelSelector)])

/-- A `PersistentVolumeClaimStatus`. -/
def claimStatus : Shape :=
  .record (
    all textMap ["allocatedResourceStatuses", "allocatedResources", "capacity"]
      ++ all .text ["currentVolumeAttributesClassName", "phase"]
      ++ [("accessModes", texts),
          ("conditions", conditions ["lastProbeTime", "lastTransitionTime"]),
          ("modifyVolumeStatus", textRecord ["status", "targetVolumeAttributesClassName"])])

/-- A `PersistentVolumeClaim`. -/
def persistentVolumeClaim : Shape :=
  object Kind.persistentVolumeClaim.type [("spec", claimSpec), ("status", claimStatus)]

/-! ### Sources of volumes -/

/-- The `items` of a volume that is filled from a map. -/
def keyFiles : Shape :=
  .list (.record (("mode", .int32) :: all .text ["key", "path"]))

/-- The `items` of a `downwardAPI`. -/
def downwardFiles : Shape :=
  .list (.record
    [("fieldRef", textRecord ["apiVersion", "fieldPath"]), ("mode", .int32), ("path", .text),
      ("resourceFieldRef", textRecord ["containerName", "divisor", "resource"])])

/-- The sources that have the same fields in a volume of a pod and in a persistent volume. The two
differ in how they refer to a `secret`. -/
def commonSources (secret : Shape) : List (String × Shape) :=
  [ ("awsElasticBlockStore",
      .record ([("partition", .int32), ("readOnly", .flag)] ++ all .text ["fsType", "volumeID"])),
    ("azureDisk",
      .record (("readOnly", .flag)
        :: all .text ["cachingMode", "diskName", "diskURI", "fsType", "kind"])),
    ("cephfs",
      .record ([("monitors", texts), ("readOnly", .flag), ("secretRef", secret)]
        ++ all .text ["path", "secretFile", "user"])),
    ("cinder",
      .record ([("readOnly", .flag), ("secretRef", secret)] ++ all .text ["fsType", "volumeID"])),
    ("fc",
      .record ([("lun", .int32), ("readOnly", .flag), ("fsType", .text)]
        ++ all texts ["targetWWNs", "wwids"])),
    ("flexVolume",
      .record ([("options", textMap), ("readOnly", .flag), ("secretRef", secret)]
        ++ all .text ["driver", "fsType"])),
    ("flocker", textRecord ["datasetName", "datasetUUID"]),
    ("gcePersistentDisk",
      .record ([("partition", .int32), ("readOnly", .flag)] ++ all .text ["fsType", "pdName"])),
    ("hostPath", textRecord ["path", "type"]),
    ("iscsi",
      .record (all .flag ["chapAuthDiscovery", "chapAuthSession", "readOnly"]
        ++ [("lun", .int32), ("portals", texts), ("secretRef", secret)]
        ++ all .text ["fsType", "initiatorName", "iqn", "iscsiInterface", "targetPortal"])),
    ("nfs", .record (("readOnly", .flag) :: all .text ["path", "server"])),
    ("photonPersistentDisk", textRecord ["fsType", "pdID"]),
    ("portworxVolume", .record (("readOnly", .flag) :: all .text ["fsType", "volumeID"])),
    ("quobyte",
      .record (("readOnly", .flag) :: all .text ["group", "registry", "tenant", "user", "volume"])),
    ("rbd",
      .record ([("monitors", texts), ("readOnly", .flag), ("secretRef", secret)]
        ++ all .text ["fsType", "image", "keyring", "pool", "user"])),
    ("scaleIO",
      .record (all .flag ["readOnly", "sslEnabled"] ++ [("secretRef", secret)]
        ++ all .text ["fsType", "gateway", "protectionDomain", "storageMode", "storagePool",
            "system", "volumeName"])),
    ("vsphereVolume",
      textRecord ["fsType", "storagePolicyID", "storagePolicyName", "volumePath"]) ]

/-- The share in `azureFile`; a persistent volume has `more` fields there than a volume of a pod. -/
def azureFile (more : List String) : String × Shape :=
  ("azureFile", .record (("readOnly", .flag) :: all .text (["secretName", "shareName"] ++ more)))

/-- The share in `glusterfs`; a persistent volume has `more` fields there than a volume of a pod. -/
def glusterfs (more : List String) : String × Shape :=
  ("glusterfs", .record (("readOnly", .flag) :: all .text (["endpoints", "path"] ++ more)))

/-- The `sources` of a projected volume. -/
def projections : Shape :=
  .list (.record
    [ ("clusterTrustBundle",
        .record ([("labelSelector", labelSelector), ("optional", .flag)]
          ++ all .text ["name", "path", "signerName"])),
      ("configMap", .record [("items", keyFiles), ("name", .text), ("optional", .flag)]),
      ("downwardAPI", .record [("items", downwardFiles)]),
      ("secret", .record [("items", keyFiles), ("name", .text), ("optional", .flag)]),
      ("serviceAccountToken",
        .record (("expirationSeconds", .int64) :: all .text ["audience", "path"])) ])

/-- An entry of the `volumes` of a pod. -/
def volume : Shape :=
  .record (
    commonSources localReference
      ++ [ ("name", .text),
        azureFile [],
        ("configMap",
          .record [("defaultMode", .int32), ("items", keyFiles), ("name", .text),
            ("optional", .flag)]),
        ("csi",
          .record ([("nodePublishSecretRef", localReference), ("readOnly", .flag),
              ("volumeAttributes", textMap)] ++ all .text ["driver", "fsType"])),
        ("downwardAPI", .record [("defaultMode", .int32), ("items", downwardFiles)]),
        ("emptyDir", textRecord ["medium", "sizeLimit"]),
        ("ephemeral",
          .record [("volumeClaimTemplate",
            .record [("metadata", objectMeta), ("spec", claimSpec)])]),
        ("gitRepo", textRecord ["directory", "repository", "revision"]),
        glusterfs [],
        ("persistentVolumeClaim", .record [("claimName", .text), ("readOnly", .flag)]),
        ("projected", .record [("defaultMode", .int32), ("sources", projections)]),
        ("secret",
          .record [("defaultMode", .int32), ("items", keyFiles), ("optional", .flag),
            ("secretName", .text)]),
        ("storageos",
          .record ([("readOnly", .flag), ("secretRef", localReference)]
            ++ all .text ["fsType", "volumeName", "volumeNamespace"])) ])

/-! ### Persistent volumes -/

/-- A `PersistentVolumeSpec`. -/
def persistentVolumeSpec : Shape :=
  .record (
    commonSources secretReference
      ++ all .text ["persistentVolumeReclaimPolicy", "storageClassName",
          "volumeAttributesClassName", "volumeMode"]
      ++ all texts ["accessModes", "mountOptions"]
      ++ [ azureFile ["secretNamespace"],
        ("capacity", textMap), ("claimRef", objectReference),
        ("csi",
          .record (all secretReference ["controllerExpandSecretRef", "controllerPublishSecretRef",
              "nodeExpandSecretRef", "nodePublishSecretRef", "nodeStageSecretRef"]
            ++ [("readOnly", .flag), ("volumeAttributes", textMap)]
            ++ all .text ["driver", "fsType", "volumeHandle"])),
        glusterfs ["endpointsNamespace"],
        ("local", textRecord ["fsType", "path"]),
        ("nodeAffinity", .record [("required", nodeSelector)]),
        ("storageos",
          .record ([("readOnly", .flag), ("secretRef", objectReference)]
            ++ all .text ["fsType", "volumeName", "volumeNamespace"])) ])

/-- A `PersistentVolume`. -/
def persistentVolume : Shape :=
  object Kind.persistentVolume.type
    [ ("spec", persistentVolumeSpec),
      ("status",
        .record (("lastPhaseTransitionTime", .instant)
          :: all .text ["message", "phase", "reason"])) ]

end Schema
end ClusterGraph
