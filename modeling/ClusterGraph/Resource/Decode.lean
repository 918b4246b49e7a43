import ClusterGraph.Resource.Object

/-!
# ClusterGraph.Resource.Decode

**How the objects of each kind are read from JSON values.**

For the kinds of the API itself a value is checked against the shape of the kind and then
read, which cannot fail. `ScaledObject` is an extension of the API with stricter rules:
what it requires must be there, and its parts may also be given as arrays, field by field
in order.
-/

namespace ClusterGraph

/-! ### Reading well-typed values -/

/-- The `metadata` of an object, read from the JSON value of the object. Missing ones are read as
empty ones. -/
def metaOf (j : Json) : ObjectMeta :=
  ObjectMeta.ofJson (j.recordAt "metadata")

/-- The `matchLabels` of the `selector` in a `spec`. -/
def matchLabels? (spec : Json) : Option (Dict String) :=
  (spec.recordAt "selector").textMapAt? "matchLabels"

def NamespaceObject.ofJson (j : Json) : NamespaceObject where
  objectMeta := metaOf j
  phase := (j.recordAt "status").textAt? "phase"

def NodeSpec.ofJson (j : Json) : NodeSpec where
  podCIDR := j.textAt? "podCIDR"
  providerID := j.textAt? "providerID"
  unschedulable := (j.flagAt? "unschedulable").getD false

def NodeInfo.ofJson (j : Json) : NodeInfo where
  kubeletVersion := j.textAt "kubeletVersion"
  osImage := j.textAt "osImage"
  architecture := j.textAt "architecture"

def NodeStatus.ofJson (j : Json) : NodeStatus where
  info := (j.recordAt? "nodeInfo").map NodeInfo.ofJson
  internalIP :=
    ((j.itemsAt "addresses").find? fun a => a.textAt "type" = "InternalIP").map
      fun a => a.textAt "address"
  ready := readyCondition? j
  capacity := j.textMapAt? "capacity"

def NodeObject.ofJson (j : Json) : NodeObject where
  objectMeta := metaOf j
  spec := (j.recordAt? "spec").map NodeSpec.ofJson
  status := (j.recordAt? "status").map NodeStatus.ofJson

def EventObject.ofJson (j : Json) : EventObject :=
  let involved := j.recordAt "involvedObject"
  { objectMeta := metaOf j
    reason := j.textAt? "reason"
    message := j.textAt? "message"
    type := j.textAt? "type"
    count := j.intAt? "count"
    first := j.instantAt? "firstTimestamp"
    last := j.instantAt? "lastTimestamp"
    involvedKind := involved.textAt? "kind"
    involvedName := involved.textAt? "name"
    involvedUid := involved.textAt? "uid"
    component := (j.recordAt "source").textAt? "component" }

def PodSpec.ofJson (j : Json) : PodSpec where
  nodeName := j.textAt? "nodeName"
  serviceAccountName := j.textAt? "serviceAccountName"
  restartPolicy := j.textAt? "restartPolicy"
  containers := (j.itemsAt "containers").map Container.ofJson
  initContainers := (j.itemsAt "initContainers").map Container.ofJson
  volumes := (j.itemsAt "volumes").map Volume.ofJson
  pullSecrets := (j.itemsAt "imagePullSecrets").filterMap referenceName?

def PodStatus.ofJson (j : Json) : PodStatus where
  phase := j.textAt? "phase"
  podIP := j.textAt? "podIP"
  hostIP := j.textAt? "hostIP"
  qosClass := j.textAt? "qosClass"
  restarts := (j.itemsAt "containerStatuses").map fun c => Int32.ofInt (c.intAt "restartCount")
  ready := readyCondition? j

def PodObject.ofJson (j : Json) : PodObject where
  objectMeta := metaOf j
  spec := (j.recordAt? "spec").map PodSpec.ofJson
  status := (j.recordAt? "status").map PodStatus.ofJson

def ReplicaSpec.ofJson (j : Json) : ReplicaSpec where
  replicas := j.intAt? "replicas"
  selector := matchLabels? j

def DeploymentSpec.ofJson (j : Json) : DeploymentSpec where
  toReplicaSpec := ReplicaSpec.ofJson j
  strategy := (j.recordAt "strategy").textAt? "type"

def DeploymentStatus.ofJson (j : Json) : DeploymentStatus where
  ready := j.intAt? "readyReplicas"
  available := j.intAt? "availableReplicas"
  updated := j.intAt? "updatedReplicas"

def DeploymentObject.ofJson (j : Json) : DeploymentObject where
  objectMeta := metaOf j
  spec := (j.recordAt? "spec").map DeploymentSpec.ofJson
  status := (j.recordAt? "status").map DeploymentStatus.ofJson

def ReplicaSetStatus.ofJson (j : Json) : ReplicaSetStatus where
  ready := j.intAt? "readyReplicas"
  available := j.intAt? "availableReplicas"

def ReplicaSetObject.ofJson (j : Json) : ReplicaSetObject where
  objectMeta := metaOf j
  spec := (j.recordAt? "spec").map ReplicaSpec.ofJson
  status := (j.recordAt? "status").map ReplicaSetStatus.ofJson

def StatefulSetStatus.ofJson (j : Json) : StatefulSetStatus where
  ready := j.intAt? "readyReplicas"
  current := j.intAt? "currentReplicas"

def StatefulSetObject.ofJson (j : Json) : StatefulSetObject where
  objectMeta := metaOf j
  spec := (j.recordAt? "spec").map ReplicaSpec.ofJson
  status := (j.recordAt? "status").map StatefulSetStatus.ofJson

def DaemonSetSpec.ofJson (j : Json) : DaemonSetSpec where
  selector := matchLabels? j

def DaemonSetStatus.ofJson (j : Json) : DaemonSetStatus where
  desired := j.intAt "desiredNumberScheduled"
  ready := j.intAt "numberReady"
  available := j.intAt? "numberAvailable"

def DaemonSetObject.ofJson (j : Json) : DaemonSetObject where
  objectMeta := metaOf j
  spec := (j.recordAt? "spec").map DaemonSetSpec.ofJson
  status := (j.recordAt? "status").map DaemonSetStatus.ofJson

def JobSpec.ofJson (j : Json) : JobSpec where
  completions := j.intAt? "completions"
  parallelism := j.intAt? "parallelism"

def JobStatus.ofJson (j : Json) : JobStatus where
  active := j.intAt? "active"
  succeeded := j.intAt? "succeeded"
  failed := j.intAt? "failed"
  started := j.instantAt? "startTime"
  completed := j.instantAt? "completionTime"

def JobObject.ofJson (j : Json) : JobObject where
  objectMeta := metaOf j
  spec := (j.recordAt? "spec").map JobSpec.ofJson
  status := (j.recordAt? "status").map JobStatus.ofJson

def CronJobSpec.ofJson (j : Json) : CronJobSpec where
  schedule := j.textAt "schedule"
  suspended := (j.flagAt? "suspend").getD false

def CronJobStatus.ofJson (j : Json) : CronJobStatus where
  lastScheduled := j.instantAt? "lastScheduleTime"

def CronJobObject.ofJson (j : Json) : CronJobObject where
  objectMeta := metaOf j
  spec := (j.recordAt? "spec").map CronJobSpec.ofJson
  status := (j.recordAt? "status").map CronJobStatus.ofJson

def ServiceSpec.ofJson (j : Json) : ServiceSpec where
  type := j.textAt? "type"
  clusterIP := j.textAt? "clusterIP"
  externalName := j.textAt? "externalName"
  selector := j.textMapAt? "selector"
  ports := (j.itemsAt? "ports").map fun ports =>
    (Shape.list Schema.servicePort).normalize (.array ports)

def ServiceObject.ofJson (j : Json) : ServiceObject where
  objectMeta := metaOf j
  spec := (j.recordAt? "spec").map ServiceSpec.ofJson

/-- The name of the `service` in a backend of an ingress. -/
def backendService? (backend : Json) : Option String :=
  (backend.recordAt? "service").map (·.textAt "name")

def IngressSpec.ofJson (j : Json) : IngressSpec :=
  let rules := j.itemsAt "rules"
  let paths := rules.flatMap fun rule => (rule.recordAt "http").itemsAt "paths"
  { className := j.textAt? "ingressClassName"
    hosts := rules.filterMap (·.textAt? "host")
    encrypted := !(j.itemsAt "tls").isEmpty
    backends :=
      (backendService? (j.recordAt "defaultBackend")).toList
        ++ paths.filterMap fun path => backendService? (path.recordAt "backend") }

def IngressObject.ofJson (j : Json) : IngressObject where
  objectMeta := metaOf j
  spec := (j.recordAt? "spec").map IngressSpec.ofJson

/-- The text that a value of a map stands for. A value that `Schema` accepts is a text. -/
def textOf (j : Json) : String :=
  j.text?.getD ""

/-- The bytes that a value of a map stands for, which is text in base 64. `null` has none. -/
def bytesOf (j : Json) : List UInt8 :=
  (j.text?.bind Text.Base64.decode?).getD []

def ConfigMapObject.ofJson (j : Json) : ConfigMapObject where
  objectMeta := metaOf j
  data := j.mapAt? textOf "data"
  binaryData := j.mapAt? bytesOf "binaryData"
  immutable := j.flagAt? "immutable"

def SecretObject.ofJson (j : Json) : SecretObject where
  objectMeta := metaOf j
  type := j.textAt? "type"
  data := j.mapAt? bytesOf "data"
  stringData := j.mapAt? textOf "stringData"
  immutable := j.flagAt? "immutable"

def ClaimSpec.ofJson (j : Json) : ClaimSpec where
  storageClass := j.textAt? "storageClassName"
  volume := j.textAt? "volumeName"
  accessModes := j.textsAt? "accessModes"
  requested := quantity? ((j.recordAt "resources").textMapAt? "requests") "storage"

def PersistentVolumeClaimObject.ofJson (j : Json) : PersistentVolumeClaimObject where
  objectMeta := metaOf j
  spec := (j.recordAt? "spec").map ClaimSpec.ofJson
  phase := (j.recordAt "status").textAt? "phase"

/-- The claim that a reference names, if it has both a `namespace` and a `name`. -/
def claimName? (ref : Json) : Option ClaimName := do
  let ns ← ref.textAt? "namespace"
  let name ← ref.textAt? "name"
  return ⟨ns, name⟩

def PersistentVolumeSpec.ofJson (j : Json) : PersistentVolumeSpec where
  capacity := quantity? (j.textMapAt? "capacity") "storage"
  storageClass := j.textAt? "storageClassName"
  reclaimPolicy := j.textAt? "persistentVolumeReclaimPolicy"
  accessModes := j.textsAt? "accessModes"
  claim := claimName? (j.recordAt "claimRef")

def PersistentVolumeObject.ofJson (j : Json) : PersistentVolumeObject where
  objectMeta := metaOf j
  spec := (j.recordAt? "spec").map PersistentVolumeSpec.ofJson
  phase := (j.recordAt "status").textAt? "phase"

def ScaleTarget.ofJson (j : Json) : ScaleTarget where
  kind := j.textAt "kind"
  name := j.textAt "name"

def AutoscalerSpec.ofJson (j : Json) : AutoscalerSpec where
  minimum := j.intAt? "minReplicas"
  maximum := j.intAt "maxReplicas"
  target := ScaleTarget.ofJson (j.recordAt "scaleTargetRef")

def AutoscalerStatus.ofJson (j : Json) : AutoscalerStatus where
  current := j.intAt? "currentReplicas"
  desired := j.intAt "desiredReplicas"

def HorizontalPodAutoscalerObject.ofJson (j : Json) : HorizontalPodAutoscalerObject where
  objectMeta := metaOf j
  spec := (j.recordAt? "spec").map AutoscalerSpec.ofJson
  status := (j.recordAt? "status").map AutoscalerStatus.ofJson

/-! ### Scaled objects -/

namespace ScaledObjectObject

/-- The fields of a part that is given as an object, or as an array of the values of its
first fields in order. Of an array there must be at least `least` values, and no more than
there are fields. -/
def parts? (names : List String) (least : Nat) : Json → Option (Dict Json)
  | .object fields => some fields
  | .array items =>
      if least ≤ items.length ∧ items.length ≤ names.length then
        some (Dict.ofList (names.zip items))
      else none
  | _ => none

/-- The text under `key`, which has to be there. -/
def text? (fields : Dict Json) (key : String) : Option String :=
  (fields.find? key).bind Json.text?

/-- A string that may be absent or `null`: `some none` if it is. -/
def optionalText? (fields : Dict Json) (key : String) : Option (Option String) :=
  match fields.find? key with
  | none | some .null => some none
  | some j => j.text?.map some

/-- A number that may be absent or `null`: `some none` if it is. -/
def optionalInt? (fields : Dict Json) (key : String) : Option (Option Int) :=
  match fields.find? key with
  | none | some .null => some none
  | some j => (j.int?.filter (Shape.fits 32)).map some

/-- The kind that a scaled object scales if its `scaleTargetRef` has none. -/
def defaultTargetKind : String := "Deployment"

/-- Read a `scaleTargetRef`: its `apiVersion` is checked and dropped. -/
def target? (j : Json) : Option ScaleTarget := do
  let fields ← parts? ["name", "kind", "apiVersion"] 3 j
  let name ← text? fields "name"
  let kind ← optionalText? fields "kind"
  let _ ← optionalText? fields "apiVersion"
  return ⟨kind.getD defaultTargetKind, name⟩

/-- Read a trigger, of which only the `type` is kept. -/
def trigger? (j : Json) : Option String := do
  let fields ← parts? ["type"] 1 j
  text? fields "type"

/-- Read the types of the triggers; there may be no list of them, but not `null`. -/
def triggers? (fields : Dict Json) : Option (List String) :=
  match fields.find? "triggers" with
  | none => some []
  | some j => j.items?.bind fun items => items.mapM trigger?

/-- Read the metadata; it may be absent, but not `null`. -/
def meta? (fields : Dict Json) : Option ObjectMeta :=
  match fields.find? "metadata" with
  | none => some (ObjectMeta.ofJson .null)
  | some j => if Schema.objectMeta.accepts j then some (ObjectMeta.ofJson j) else none

/-- Read a `ScaledObject`, for which there is no `Schema`. Its parts are objects or arrays
(`parts?`), and its fields may be missing only where the readers above say so. -/
def decode? (j : Json) : Option ScaledObjectObject := do
  let fields ← parts? ["metadata", "spec"] 2 j
  let objectMeta ← meta? fields
  let spec ← (fields.find? "spec").bind <|
    parts? ["scaleTargetRef", "minReplicaCount", "maxReplicaCount", "pollingInterval",
      "cooldownPeriod", "triggers"] 5
  let target ← (spec.find? "scaleTargetRef").bind target?
  let minimum ← optionalInt? spec "minReplicaCount"
  let maximum ← optionalInt? spec "maxReplicaCount"
  let polling ← optionalInt? spec "pollingInterval"
  let cooldown ← optionalInt? spec "cooldownPeriod"
  let triggers ← triggers? spec
  return { objectMeta, minimum, maximum, polling, cooldown, triggers, target }

end ScaledObjectObject

/-! ### The objects of a kind -/

/-- The type of the objects of a kind. -/
@[reducible] def ObjectOf : Kind → Type
  | .namespace_ => NamespaceObject
  | .node => NodeObject
  | .pod => PodObject
  | .deployment => DeploymentObject
  | .replicaSet => ReplicaSetObject
  | .statefulSet => StatefulSetObject
  | .daemonSet => DaemonSetObject
  | .job => JobObject
  | .cronJob => CronJobObject
  | .service => ServiceObject
  | .ingress => IngressObject
  | .configMap => ConfigMapObject
  | .secret => SecretObject
  | .persistentVolumeClaim => PersistentVolumeClaimObject
  | .persistentVolume => PersistentVolumeObject
  | .horizontalPodAutoscaler => HorizontalPodAutoscalerObject
  | .scaledObject => ScaledObjectObject
  | .event => EventObject

namespace ObjectOf

/-- The `objectMeta` of an object, whatever its kind. -/
def objectMeta : (k : Kind) → ObjectOf k → ObjectMeta
  | .namespace_, o => NamespaceObject.objectMeta o
  | .node, o => NodeObject.objectMeta o
  | .pod, o => PodObject.objectMeta o
  | .deployment, o => DeploymentObject.objectMeta o
  | .replicaSet, o => ReplicaSetObject.objectMeta o
  | .statefulSet, o => StatefulSetObject.objectMeta o
  | .daemonSet, o => DaemonSetObject.objectMeta o
  | .job, o => JobObject.objectMeta o
  | .cronJob, o => CronJobObject.objectMeta o
  | .service, o => ServiceObject.objectMeta o
  | .ingress, o => IngressObject.objectMeta o
  | .configMap, o => ConfigMapObject.objectMeta o
  | .secret, o => SecretObject.objectMeta o
  | .persistentVolumeClaim, o => PersistentVolumeClaimObject.objectMeta o
  | .persistentVolume, o => PersistentVolumeObject.objectMeta o
  | .horizontalPodAutoscaler, o => HorizontalPodAutoscalerObject.objectMeta o
  | .scaledObject, o => ScaledObjectObject.objectMeta o
  | .event, o => EventObject.objectMeta o

/-- Read a value with `read`, if the shape `accepts` it. -/
def readIf {α : Type} (shape : Shape) (read : Json → α) (j : Json) : Option α :=
  if shape.accepts j then some (read j) else none

/-- Read an object of a kind: by `readIf` with the `Schema` of the kind, or by
`ScaledObjectObject.decode?`. -/
def decode? : (k : Kind) → Json → Option (ObjectOf k)
  | .namespace_ => readIf Schema.namespace_ NamespaceObject.ofJson
  | .node => readIf Schema.node NodeObject.ofJson
  | .pod => readIf Schema.pod PodObject.ofJson
  | .deployment => readIf Schema.deployment DeploymentObject.ofJson
  | .replicaSet => readIf Schema.replicaSet ReplicaSetObject.ofJson
  | .statefulSet => readIf Schema.statefulSet StatefulSetObject.ofJson
  | .daemonSet => readIf Schema.daemonSet DaemonSetObject.ofJson
  | .job => readIf Schema.job JobObject.ofJson
  | .cronJob => readIf Schema.cronJob CronJobObject.ofJson
  | .service => readIf Schema.service ServiceObject.ofJson
  | .ingress => readIf Schema.ingress IngressObject.ofJson
  | .configMap => readIf Schema.configMap ConfigMapObject.ofJson
  | .secret => readIf Schema.secret SecretObject.ofJson
  | .persistentVolumeClaim =>
      readIf Schema.persistentVolumeClaim PersistentVolumeClaimObject.ofJson
  | .persistentVolume => readIf Schema.persistentVolume PersistentVolumeObject.ofJson
  | .horizontalPodAutoscaler =>
      readIf Schema.horizontalPodAutoscaler HorizontalPodAutoscalerObject.ofJson
  | .scaledObject => ScaledObjectObject.decode?
  | .event => readIf Schema.event EventObject.ofJson

end ObjectOf

end ClusterGraph
