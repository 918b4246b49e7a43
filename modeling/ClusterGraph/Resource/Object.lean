import ClusterGraph.Resource.Meta
import ClusterGraph.Resource.Schema.Objects

/-!
# ClusterGraph.Resource.Object

**Objects of each kind, as far as the graph takes an interest in them.**

`ObjectOf k` is the type of the objects of kind `k`, `ObjectOf.decode?` reads one from a
JSON value and fails exactly on the values that are not well typed.

Design points:

* a part of an object that may be missing is an `Option`; what can be told only of a part
  stands inside it, so an object without a status has no property that comes from one;
* what the graph has no use for is not kept. The values of configuration maps and secrets are
  the exception: it is for what is told of an object to leave them out, not for its reading.
-/

namespace ClusterGraph

/-! ### Parts of objects -/

/-- Whether the first condition named `Ready` holds. -/
def readyCondition? (status : Json) : Option Bool :=
  ((status.itemsAt "conditions").find? fun c => c.textAt "type" = "Ready").map fun c =>
    c.textAt "status" = "True"

/-- The quantity under `name`, if there are `quantities` at all. -/
def quantity? (quantities : Option (Dict String)) (name : String) : Option String :=
  quantities.bind fun q => q.find? name

/-- The `name` in a reference to an object of the same namespace. An empty name refers to
nothing. -/
def referenceName? (j : Json) : Option String :=
  ((j.field? "name").bind Json.text?).filter (· ≠ "")

/-- An entry of `envFrom`: a `ConfigMap`, a `Secret`, or both. -/
structure EnvironmentSource where
  configMap : Option String
  secret : Option String
deriving DecidableEq

/-- A container: the objects that its `environment` is filled from, and its `image`. -/
structure Container where
  name : String
  image : Option String
  environment : List EnvironmentSource
deriving DecidableEq

/-- A volume of a pod, by the name of the `ConfigMap`, the `Secret` or the claim that it mounts. -/
structure Volume where
  configMap : Option String
  secret : Option String
  claim : Option String
deriving DecidableEq

def EnvironmentSource.ofJson (j : Json) : EnvironmentSource where
  configMap := (j.recordAt? "configMapRef").bind referenceName?
  secret := (j.recordAt? "secretRef").bind referenceName?

def Container.ofJson (j : Json) : Container where
  name := j.textAt "name"
  image := j.textAt? "image"
  environment := (j.itemsAt "envFrom").map EnvironmentSource.ofJson

def Volume.ofJson (j : Json) : Volume where
  configMap := (j.recordAt? "configMap").bind referenceName?
  secret := (j.recordAt? "secret").bind (·.textAt? "secretName")
  claim := (j.recordAt? "persistentVolumeClaim").map (·.textAt "claimName")

/-- The target of an autoscaler, by its `kind` and its `name`. -/
structure ScaleTarget where
  kind : String
  name : String
deriving DecidableEq

/-! ### Cluster -/

structure NamespaceObject where
  objectMeta : ObjectMeta
  phase : Option String

structure NodeSpec where
  podCIDR : Option String
  providerID : Option String
  unschedulable : Bool

structure NodeInfo where
  kubeletVersion : String
  osImage : String
  architecture : String

structure NodeStatus where
  info : Option NodeInfo
  internalIP : Option String
  ready : Option Bool
  capacity : Option (Dict String)

structure NodeObject where
  objectMeta : ObjectMeta
  spec : Option NodeSpec
  status : Option NodeStatus

structure EventObject where
  objectMeta : ObjectMeta
  reason : Option String
  message : Option String
  type : Option String
  count : Option Int
  first : Option Instant
  last : Option Instant
  involvedKind : Option String
  involvedName : Option String
  involvedUid : Option String
  component : Option String

/-! ### Workloads -/

structure PodSpec where
  nodeName : Option String
  serviceAccountName : Option String
  restartPolicy : Option String
  containers : List Container
  initContainers : List Container
  volumes : List Volume
  pullSecrets : List String

structure PodStatus where
  phase : Option String
  podIP : Option String
  hostIP : Option String
  qosClass : Option String
  restarts : List Int32
  ready : Option Bool

structure PodObject where
  objectMeta : ObjectMeta
  spec : Option PodSpec
  status : Option PodStatus

/-- What handlers read of the `spec` of a workload: the number of `replicas`, and the `matchLabels`
of the `selector`. -/
structure ReplicaSpec where
  replicas : Option Int
  selector : Option (Dict String)

structure DeploymentSpec extends ReplicaSpec where
  strategy : Option String

structure DeploymentStatus where
  ready : Option Int
  available : Option Int
  updated : Option Int

structure DeploymentObject where
  objectMeta : ObjectMeta
  spec : Option DeploymentSpec
  status : Option DeploymentStatus

structure ReplicaSetStatus where
  ready : Option Int
  available : Option Int

structure ReplicaSetObject where
  objectMeta : ObjectMeta
  spec : Option ReplicaSpec
  status : Option ReplicaSetStatus

structure StatefulSetStatus where
  ready : Option Int
  current : Option Int

structure StatefulSetObject where
  objectMeta : ObjectMeta
  spec : Option ReplicaSpec
  status : Option StatefulSetStatus

structure DaemonSetSpec where
  selector : Option (Dict String)

structure DaemonSetStatus where
  desired : Int
  ready : Int
  available : Option Int

structure DaemonSetObject where
  objectMeta : ObjectMeta
  spec : Option DaemonSetSpec
  status : Option DaemonSetStatus

structure JobSpec where
  completions : Option Int
  parallelism : Option Int

structure JobStatus where
  active : Option Int
  succeeded : Option Int
  failed : Option Int
  started : Option Instant
  completed : Option Instant

structure JobObject where
  objectMeta : ObjectMeta
  spec : Option JobSpec
  status : Option JobStatus

structure CronJobSpec where
  schedule : String
  suspended : Bool

structure CronJobStatus where
  lastScheduled : Option Instant

structure CronJobObject where
  objectMeta : ObjectMeta
  spec : Option CronJobSpec
  status : Option CronJobStatus

/-! ### Network -/

structure ServiceSpec where
  type : Option String
  clusterIP : Option String
  externalName : Option String
  selector : Option (Dict String)
  ports : Option Json

structure ServiceObject where
  objectMeta : ObjectMeta
  spec : Option ServiceSpec

structure IngressSpec where
  className : Option String
  hosts : List String
  encrypted : Bool
  backends : List String

structure IngressObject where
  objectMeta : ObjectMeta
  spec : Option IngressSpec

/-! ### Configuration and storage -/

structure ConfigMapObject where
  objectMeta : ObjectMeta
  data : Option (Dict String)
  binaryData : Option (Dict (List UInt8))
  immutable : Option Bool

/-- A `Secret`. What it has in `stringData` is not in its `data` until the API has put it there. -/
structure SecretObject where
  objectMeta : ObjectMeta
  type : Option String
  data : Option (Dict (List UInt8))
  stringData : Option (Dict String)
  immutable : Option Bool

structure ClaimSpec where
  storageClass : Option String
  volume : Option String
  accessModes : Option (List String)
  requested : Option String

structure PersistentVolumeClaimObject where
  objectMeta : ObjectMeta
  spec : Option ClaimSpec
  phase : Option String

/-- A `PersistentVolumeClaim`, by its namespace and its name. -/
structure ClaimName where
  namespace_ : String
  name : String
deriving DecidableEq

structure PersistentVolumeSpec where
  capacity : Option String
  storageClass : Option String
  reclaimPolicy : Option String
  accessModes : Option (List String)
  claim : Option ClaimName

structure PersistentVolumeObject where
  objectMeta : ObjectMeta
  spec : Option PersistentVolumeSpec
  phase : Option String

/-! ### Autoscaling -/

structure AutoscalerSpec where
  minimum : Option Int
  maximum : Int
  target : ScaleTarget

structure AutoscalerStatus where
  current : Option Int
  desired : Int

structure HorizontalPodAutoscalerObject where
  objectMeta : ObjectMeta
  spec : Option AutoscalerSpec
  status : Option AutoscalerStatus

structure ScaledObjectObject where
  objectMeta : ObjectMeta
  minimum : Option Int
  maximum : Option Int
  polling : Option Int
  cooldown : Option Int
  triggers : List String
  target : ScaleTarget

end ClusterGraph
