/-!
# ClusterGraph.Resource.Kind

**The kinds of object that are watched, and the resource types under which the API serves
objects.**
-/

namespace ClusterGraph

/-! ### Resource types -/

/-- A type of object as the API serves it: `group` and `version`, the name of the `resource` in a
path, the `kind` that objects state, and whether they are `namespaced`. -/
structure ResourceType where
  group : String
  version : String
  resource : String
  kind : String
  namespaced : Bool
deriving DecidableEq

namespace ResourceType

/-- The `apiVersion` that objects state: the group, a slash and the version, or the version alone in
the core group. -/
def apiVersion (t : ResourceType) : String :=
  if t.group.isEmpty then t.version else t.group ++ "/" ++ t.version

/-- The type in a message, as in `deployments.v1.apps`. -/
def display (t : ResourceType) : String :=
  if t.group.isEmpty then t.resource ++ "." ++ t.version
  else t.resource ++ "." ++ t.version ++ "." ++ t.group

/-- The path under which objects are listed and watched in all namespaces. -/
def path (t : ResourceType) : String :=
  if t.group.isEmpty then "/api/" ++ t.version ++ "/" ++ t.resource
  else "/apis/" ++ t.group ++ "/" ++ t.version ++ "/" ++ t.resource

end ResourceType

/-! ### Watched kinds -/

/-- A kind of object that the graph has nodes of. -/
inductive Kind where
  | namespace_
  | node
  | pod
  | deployment
  | replicaSet
  | statefulSet
  | daemonSet
  | job
  | cronJob
  | service
  | ingress
  | configMap
  | secret
  | persistentVolumeClaim
  | persistentVolume
  | horizontalPodAutoscaler
  | scaledObject
  | event
deriving DecidableEq

namespace Kind

/-- All kinds, in the order of their handlers. -/
def all : List Kind :=
  [namespace_, node, pod, deployment, replicaSet, statefulSet, daemonSet, job, cronJob,
    service, ingress, configMap, secret, persistentVolumeClaim, persistentVolume,
    horizontalPodAutoscaler, scaledObject, event]

/-- The `ResourceType` of the objects of a kind. -/
def type : Kind → ResourceType
  | namespace_ => ⟨"", "v1", "namespaces", "Namespace", false⟩
  | node => ⟨"", "v1", "nodes", "Node", false⟩
  | pod => ⟨"", "v1", "pods", "Pod", true⟩
  | deployment => ⟨"apps", "v1", "deployments", "Deployment", true⟩
  | replicaSet => ⟨"apps", "v1", "replicasets", "ReplicaSet", true⟩
  | statefulSet => ⟨"apps", "v1", "statefulsets", "StatefulSet", true⟩
  | daemonSet => ⟨"apps", "v1", "daemonsets", "DaemonSet", true⟩
  | job => ⟨"batch", "v1", "jobs", "Job", true⟩
  | cronJob => ⟨"batch", "v1", "cronjobs", "CronJob", true⟩
  | service => ⟨"", "v1", "services", "Service", true⟩
  | ingress => ⟨"networking.k8s.io", "v1", "ingresses", "Ingress", true⟩
  | configMap => ⟨"", "v1", "configmaps", "ConfigMap", true⟩
  | secret => ⟨"", "v1", "secrets", "Secret", true⟩
  | persistentVolumeClaim => ⟨"", "v1", "persistentvolumeclaims", "PersistentVolumeClaim", true⟩
  | persistentVolume => ⟨"", "v1", "persistentvolumes", "PersistentVolume", false⟩
  | horizontalPodAutoscaler =>
      ⟨"autoscaling", "v2", "horizontalpodautoscalers", "HorizontalPodAutoscaler", true⟩
  | scaledObject => ⟨"keda.sh", "v1alpha1", "scaledobjects", "ScaledObject", true⟩
  | event => ⟨"", "v1", "events", "Event", true⟩

/-- The name of a kind: what its objects state as `kind`, and the label of its nodes. -/
def name (k : Kind) : String :=
  k.type.kind

/-- The kind of which `s` is the `name`. -/
def ofName? (s : String) : Option Kind :=
  all.find? fun k => k.name = s

/-- The kinds with a handler if events are kept for `eventDays`. Without a positive number of days,
`event` has none. -/
def watched (eventDays : Int) : List Kind :=
  all.filter fun k => k ≠ event || eventDays > 0

theorem mem_all (k : Kind) : k ∈ all := by
  cases k <;> decide

theorem ofName?_name (k : Kind) : ofName? k.name = some k := by
  cases k <;> decide

theorem name_injective {a b : Kind} (h : a.name = b.name) : a = b := by
  have := ofName?_name a
  rw [h, ofName?_name] at this
  exact (Option.some.inj this).symm

end Kind

end ClusterGraph
