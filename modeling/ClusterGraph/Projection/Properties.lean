import ClusterGraph.Graph.NodeRef
import ClusterGraph.Resource.Decode

/-!
# ClusterGraph.Projection.Properties

**The properties that an object gives its node.**

Every node has the identity of its object and of the instance that wrote it; each kind adds
what is worth asking for. Values are those of JSON, `null` where there is nothing to tell:
the store leaves those out.

Design points:

* a property is listed even if its value may be `null`, but not if the part of the object it
  comes from is missing;
* of configuration maps and secrets only the keys are kept. Annotations are kept, except the
  one in which a secret may carry a copy of its data;
* events belong to no instance, and carry the time at which they were written instead;
* the restarts of a pod are added up in 32 bits, and the addition is checked
  (`PodStatus.restartCount?`, `ObjectOf.overflows`).
-/

namespace ClusterGraph

/-- Key and value of a property, before it is stored (`Json.stored?`). -/
abbrev PropertyField := String × Json

/-! ### Values -/

/-- An instant as it is printed by `Instant.format`; `null` if there is none. -/
def Json.ofInstant? (t : Option Instant) : Json :=
  .ofText? (t.map Instant.format)

/-- A list of texts; `null` if there is none. -/
def Json.ofTexts? : Option (List String) → Json
  | some items => .texts items
  | none => .null

/-- The keys of a dictionary, without what is bound to them; `null` if there is none. -/
def Json.ofKeys? {α : Type} (d : Option (Dict α)) : Json :=
  .ofTexts? (d.map Dict.keys)

/-- A dictionary of texts; `null` if there is none. -/
def Json.ofTextMap? : Option (Dict String) → Json
  | some d => .textMap d
  | none => .null

/-! ### Properties of every node -/

/-- The `namespacedName` of an object that has both a namespace and a name, under which links from
other objects find it. -/
def namespacedField (m : ObjectMeta) : List PropertyField :=
  match m.namespace_, m.name with
  | some ns, some name => [(Key.namespacedName, .text (NodeRef.namespacedName ns name))]
  | _, _ => []

/-- Properties that nodes of all kinds have: what the metadata says, and who wrote it. The
`namespacedField` comes last. -/
def metadataFields (id : Identity) (uid : String) (m : ObjectMeta) : List PropertyField :=
  [ (Key.uid, .text uid),
    (Key.name, .ofText? m.name),
    (Key.namespace_, .ofText? m.namespace_),
    (Key.clusterName, .text id.cluster),
    (Key.instanceHash, .text id.hash),
    (Key.annotations, .ofTextMap? m.annotations),
    ("labels", .ofTextMap? m.labels),
    ("creationTimestamp", .ofInstant? m.created) ]
    ++ namespacedField m

/-! ### Properties of each kind -/

/-- The properties of a part of an object; none if the object does not have the part. -/
def fieldsOf {α : Type} (part : Option α) (fields : α → List PropertyField) :
    List PropertyField :=
  (part.map fields).getD []

def NamespaceObject.fields (o : NamespaceObject) : List PropertyField :=
  [("phase", .ofText? o.phase)]

def NodeObject.fields (o : NodeObject) : List PropertyField :=
  fieldsOf o.spec (fun s =>
    [ ("podCIDR", .ofText? s.podCIDR),
      ("providerID", .ofText? s.providerID),
      ("unschedulable", .bool s.unschedulable) ])
    ++ fieldsOf o.status fun s =>
      fieldsOf s.info (fun i =>
        [ ("kubeletVersion", .text i.kubeletVersion),
          ("osImage", .text i.osImage),
          ("architecture", .text i.architecture) ])
        ++ [("internalIP", .ofText? s.internalIP), ("ready", .ofBool? s.ready)]
        ++ fieldsOf s.capacity fun c =>
          [ ("capacityCpu", .ofText? (c.find? "cpu")),
            ("capacityMemory", .ofText? (c.find? "memory")),
            ("capacityPods", .ofText? (c.find? "pods")) ]

/-- Add the `word` of a container to the `total` of those before it. `none` if the sum does not fit
32 bits: the addition is checked, and panics there. -/
def addWord? (total : Int) (word : Int32) : Option Int :=
  if Shape.fits 32 (total + word.toInt) then some (total + word.toInt) else none

/-- How often the containers of a pod were restarted. `none` as soon as a sum on the way does not
fit 32 bits, even if the sum of all counts would. -/
def PodStatus.restartCount? (s : PodStatus) : Option Int :=
  s.restarts.foldlM addWord? 0

def PodObject.fields (o : PodObject) : List PropertyField :=
  [ ("nodeName", .ofText? (o.spec.bind (·.nodeName))),
    ("serviceAccountName", .ofText? (o.spec.bind (·.serviceAccountName))),
    ("restartPolicy", .ofText? (o.spec.bind (·.restartPolicy))) ]
    ++ fieldsOf o.spec (fun s =>
      [ ("containers", .texts (s.containers.map (·.name))),
        ("images", .texts (s.containers.filterMap (·.image))) ])
    ++ fieldsOf o.status fun s =>
      [ ("phase", .ofText? s.phase),
        ("podIP", .ofText? s.podIP),
        ("hostIP", .ofText? s.hostIP),
        ("qosClass", .ofText? s.qosClass),
        ("restartCount", .ofInt? s.restartCount?),
        ("ready", .ofBool? s.ready) ]

def DeploymentObject.fields (o : DeploymentObject) : List PropertyField :=
  fieldsOf o.spec (fun s =>
    [ ("replicas", .ofInt? s.replicas),
      ("selector", .ofTextMap? s.selector),
      ("strategy", .ofText? s.strategy) ])
    ++ fieldsOf o.status fun s =>
      [ ("readyReplicas", .ofInt? s.ready),
        ("availableReplicas", .ofInt? s.available),
        ("updatedReplicas", .ofInt? s.updated) ]

def ReplicaSetObject.fields (o : ReplicaSetObject) : List PropertyField :=
  fieldsOf o.spec (fun s =>
    [("replicas", .ofInt? s.replicas), ("selector", .ofTextMap? s.selector)])
    ++ fieldsOf o.status fun s =>
      [("readyReplicas", .ofInt? s.ready), ("availableReplicas", .ofInt? s.available)]

def StatefulSetObject.fields (o : StatefulSetObject) : List PropertyField :=
  fieldsOf o.spec (fun s =>
    [("replicas", .ofInt? s.replicas), ("selector", .ofTextMap? s.selector)])
    ++ fieldsOf o.status fun s =>
      [("readyReplicas", .ofInt? s.ready), ("currentReplicas", .ofInt? s.current)]

def DaemonSetObject.fields (o : DaemonSetObject) : List PropertyField :=
  fieldsOf o.spec (fun s => [("selector", .ofTextMap? s.selector)])
    ++ fieldsOf o.status fun s =>
      [ ("desiredNumberScheduled", .int s.desired),
        ("numberReady", .int s.ready),
        ("numberAvailable", .ofInt? s.available) ]

def JobObject.fields (o : JobObject) : List PropertyField :=
  fieldsOf o.spec (fun s =>
    [("completions", .ofInt? s.completions), ("parallelism", .ofInt? s.parallelism)])
    ++ fieldsOf o.status fun s =>
      [ ("active", .ofInt? s.active),
        ("succeeded", .ofInt? s.succeeded),
        ("failed", .ofInt? s.failed),
        ("startTime", .ofInstant? s.started),
        ("completionTime", .ofInstant? s.completed) ]

def CronJobObject.fields (o : CronJobObject) : List PropertyField :=
  fieldsOf o.spec (fun s => [("schedule", .text s.schedule), ("suspend", .bool s.suspended)])
    ++ fieldsOf o.status fun s => [("lastScheduleTime", .ofInstant? s.lastScheduled)]

def ServiceObject.fields (o : ServiceObject) : List PropertyField :=
  fieldsOf o.spec fun s =>
    [ ("type", .ofText? s.type),
      ("clusterIP", .ofText? s.clusterIP),
      ("externalName", .ofText? s.externalName),
      ("selector", .ofTextMap? s.selector),
      ("ports", s.ports.getD .null) ]

def IngressObject.fields (o : IngressObject) : List PropertyField :=
  fieldsOf o.spec fun s =>
    [ ("ingressClassName", .ofText? s.className),
      ("hosts", .texts s.hosts),
      ("tls", .bool s.encrypted) ]

def ConfigMapObject.fields (o : ConfigMapObject) : List PropertyField :=
  [ ("dataKeys", .ofKeys? o.data),
    ("binaryDataKeys", .ofKeys? o.binaryData),
    ("immutable", .ofBool? o.immutable) ]

/-- Key of the annotation in which clients keep a copy of the whole object, its data included. -/
def lastApplied : String := "kubectl.kubernetes.io/last-applied-configuration"

/-- Annotations of a secret that may be stored: all but `lastApplied`, whose copy would hold the
data of the secret. -/
def SecretObject.publicAnnotations (o : SecretObject) : Option (Dict String) :=
  o.objectMeta.annotations.map (·.erase lastApplied)

def SecretObject.fields (o : SecretObject) : List PropertyField :=
  [ ("type", .ofText? o.type),
    ("dataKeys", .ofKeys? o.data),
    ("immutable", .ofBool? o.immutable),
    (Key.annotations, .ofTextMap? o.publicAnnotations) ]

def PersistentVolumeClaimObject.fields (o : PersistentVolumeClaimObject) : List PropertyField :=
  fieldsOf o.spec (fun s =>
    [ ("storageClassName", .ofText? s.storageClass),
      ("volumeName", .ofText? s.volume),
      ("accessModes", .ofTexts? s.accessModes),
      ("requestedStorage", .ofText? s.requested) ])
    ++ [("phase", .ofText? o.phase)]

/-- The claim that a volume is bound to, if it is bound. -/
def PersistentVolumeObject.claim? (o : PersistentVolumeObject) : Option ClaimName :=
  o.spec.bind (·.claim)

def PersistentVolumeObject.fields (o : PersistentVolumeObject) : List PropertyField :=
  fieldsOf o.spec (fun s =>
    [ ("capacity", .ofText? s.capacity),
      ("storageClassName", .ofText? s.storageClass),
      ("reclaimPolicy", .ofText? s.reclaimPolicy),
      ("accessModes", .ofTexts? s.accessModes) ])
    ++ [ ("claim", .ofText? (o.claim?.map fun c => NodeRef.namespacedName c.namespace_ c.name)),
         ("phase", .ofText? o.phase) ]

def HorizontalPodAutoscalerObject.fields (o : HorizontalPodAutoscalerObject) :
    List PropertyField :=
  fieldsOf o.spec (fun s =>
    [ ("minReplicas", .ofInt? s.minimum),
      ("maxReplicas", .int s.maximum),
      ("targetKind", .text s.target.kind),
      ("targetName", .text s.target.name) ])
    ++ fieldsOf o.status fun s =>
      [("currentReplicas", .ofInt? s.current), ("desiredReplicas", .int s.desired)]

def ScaledObjectObject.fields (o : ScaledObjectObject) : List PropertyField :=
  [ ("minReplicaCount", .ofInt? o.minimum),
    ("maxReplicaCount", .ofInt? o.maximum),
    ("pollingInterval", .ofInt? o.polling),
    ("cooldownPeriod", .ofInt? o.cooldown),
    ("triggers", .texts o.triggers),
    ("targetKind", .text o.target.kind),
    ("targetName", .text o.target.name) ]

/-- Properties of the node of an event. `createdAt` is when it was written, and decides when it
expires (`Node.isExpiredEvent`). -/
def EventObject.fields (now : Instant) (o : EventObject) : List PropertyField :=
  [ (Key.createdAt, .text now.format),
    ("reason", .ofText? o.reason),
    ("message", .ofText? o.message),
    ("type", .ofText? o.type),
    ("count", .ofInt? o.count),
    ("firstTimestamp", .ofInstant? o.first),
    ("lastTimestamp", .ofInstant? o.last),
    ("involvedKind", .ofText? o.involvedKind),
    ("involvedName", .ofText? o.involvedName),
    ("sourceComponent", .ofText? o.component) ]

namespace ObjectOf

/-- Properties of an object that its metadata says nothing of, kind by kind. Only those of events
depend on `now`. -/
def ownFields (now : Instant) : (k : Kind) → ObjectOf k → List PropertyField
  | .namespace_, o => NamespaceObject.fields o
  | .node, o => NodeObject.fields o
  | .pod, o => PodObject.fields o
  | .deployment, o => DeploymentObject.fields o
  | .replicaSet, o => ReplicaSetObject.fields o
  | .statefulSet, o => StatefulSetObject.fields o
  | .daemonSet, o => DaemonSetObject.fields o
  | .job, o => JobObject.fields o
  | .cronJob, o => CronJobObject.fields o
  | .service, o => ServiceObject.fields o
  | .ingress, o => IngressObject.fields o
  | .configMap, o => ConfigMapObject.fields o
  | .secret, o => SecretObject.fields o
  | .persistentVolumeClaim, o => PersistentVolumeClaimObject.fields o
  | .persistentVolume, o => PersistentVolumeObject.fields o
  | .horizontalPodAutoscaler, o => HorizontalPodAutoscalerObject.fields o
  | .scaledObject, o => ScaledObjectObject.fields o
  | .event, o => EventObject.fields now o

/-- Whether the properties of an object cannot be computed: it is a pod, and adding up its
`restartCount?` panics. The fields above list `null` there, which nothing ever stores, because
`Sync.create?` ends before. -/
def overflows : (k : Kind) → ObjectOf k → Bool
  | .pod, o => (PodObject.status o).any fun s => s.restartCount?.isNone
  | _, _ => false

/-- Keys that nodes of a kind do without. Events bear no `instanceHash`, so no sweep takes them for
leftovers of another instance. -/
def omittedKeys : Kind → List String
  | .event => [Key.instanceHash]
  | _ => []

/-- All properties of the node of an object, without the `omittedKeys`. Where both say something
under one key, `ownFields` stand over `metadataFields`. -/
def fields (id : Identity) (now : Instant) (uid : String) (k : Kind) (o : ObjectOf k) :
    Dict Json :=
  Dict.ofList <|
    (metadataFields id uid (objectMeta k o) ++ ownFields now k o).filter fun field =>
      !(omittedKeys k).contains field.1

end ObjectOf

end ClusterGraph
