import ClusterGraph.Projection.Owners
import ClusterGraph.Store.Plan
import ClusterGraph.Projection.Properties
import ClusterGraph.Projection.Selection

/-!
# ClusterGraph.Projection.Links

**The relationships that an object calls for.**

Most follow from the object alone: it names its owners, its namespace, and what it mounts,
runs on, routes to, scales or is bound to. Selection does not: which pods a service selects
depends on the nodes that are there, so both sides ask for candidates and keep those that
match.

Design points:

* a link joins references, not nodes. What is not there yet is linked when it comes, by the
  other side or by the next version of this one;
* names are references within the cluster of the instance, unique identifiers are not
  narrowed;
* sets of names are emitted in order, each once.
-/

namespace ClusterGraph

/-- Relationship that is to be made between the nodes of two references. -/
structure Link where
  source : NodeRef
  rel : Relationship
  target : NodeRef
deriving DecidableEq

namespace Link

/-- The call that makes the link. -/
def call (l : Link) : Call :=
  .link l.source l.rel l.target

end Link

/-- Parameters of whatever is written: the instance `id` that writes, and the kinds whose objects
have nodes (`owners`). -/
structure Writer where
  id : Identity
  owners : OwnerKinds
deriving DecidableEq

namespace Writer

/-- Reference to the object called `name` in the namespace `ns` of the cluster of `w`. -/
def namespaced (w : Writer) (label ns name : String) : NodeRef :=
  .byNamespacedName label ns name w.id.cluster

/-- Reference to the object called `name` in the cluster of `w`, for kinds without namespaces. -/
def named (w : Writer) (label name : String) : NodeRef :=
  .byName label name w.id.cluster

end Writer

/-! ### Metadata -/

/-- The link from an owner, if `OwnerKinds.labelFor?` knows its kind: `manages` from the owner that
controls the object, `owns` from any other. -/
def ownerLink? (w : Writer) (self : NodeRef) (owner : OwnerReference) : Option Link :=
  (w.owners.labelFor? owner.kind).map fun label =>
    ⟨.byUid label owner.uid, if owner.controls then .manages else .owns, self⟩

/-- The `belongsTo` link to the namespace of an object, if it has one. -/
def membership (w : Writer) (self : NodeRef) (m : ObjectMeta) : List Link :=
  m.namespace_.toList.map fun ns => ⟨self, .belongsTo, w.named Label.namespace_ ns⟩

/-- The links for the metadata of an object: one from each owner that has a node (`ownerLink?`), and
its `membership`. -/
def metadataLinks (w : Writer) (self : NodeRef) (m : ObjectMeta) : List Link :=
  m.owners.filterMap (ownerLink? w self) ++ membership w self m

/-- Whether objects of a kind get their `metadataLinks`. Namespaces and nodes have neither owners
nor a namespace, and events get their own link only (`EventObject.links`). -/
def followsMetadata : Kind → Bool
  | .namespace_ | .node | .event => false
  | _ => true

/-! ### Links of each kind -/

/-- The distinct names of a list in ascending order, as the keys of a dictionary are. -/
def sortedNames (names : List String) : List String :=
  (Dict.ofList (names.map fun name => (name, ()))).keys

namespace PodSpec

/-- The sources of the environment of all containers, those that initialize the pod included. -/
def environment (s : PodSpec) : List EnvironmentSource :=
  (s.containers ++ s.initContainers).flatMap Container.environment

/-- Names of the configuration maps that a pod uses, in volumes and in the `environment` of its
containers. -/
def configMaps (s : PodSpec) : List String :=
  s.volumes.filterMap Volume.configMap ++ s.environment.filterMap EnvironmentSource.configMap

/-- Names of the claims that a pod uses, in volumes. -/
def claims (s : PodSpec) : List String :=
  s.volumes.filterMap Volume.claim

/-- Names of the secrets that a pod uses: in volumes, in the `environment` of its containers, and
for pulling images. -/
def secrets (s : PodSpec) : List String :=
  s.volumes.filterMap Volume.secret ++ s.environment.filterMap EnvironmentSource.secret
    ++ s.pullSecrets

/-- Label and name of all that a pod uses, without repetitions: `configMaps`, `claims` and
`secrets`, each in ascending order. -/
def used (s : PodSpec) : List (String × String) :=
  (sortedNames s.configMaps).map (Kind.configMap.name, ·)
    ++ (sortedNames s.claims).map (Kind.persistentVolumeClaim.name, ·)
    ++ (sortedNames s.secrets).map (Kind.secret.name, ·)

end PodSpec

/-- The `scheduledOn` link to the cluster node of a pod, and a `uses` link to each object that its
specification names (`PodSpec.used`). -/
def PodObject.links (w : Writer) (self : NodeRef) (o : PodObject) : List Link :=
  (o.spec.bind (·.nodeName)).toList.map
      (fun name => ⟨self, .scheduledOn, w.named Kind.node.name name⟩)
    ++ match o.spec, o.objectMeta.namespace_ with
      | some s, some ns => s.used.map fun u => ⟨self, .uses, w.namespaced u.1 ns u.2⟩
      | _, _ => []

/-- A `routesTo` link to each service among the backends of an ingress. -/
def IngressObject.links (w : Writer) (self : NodeRef) (o : IngressObject) : List Link :=
  match o.spec, o.objectMeta.namespace_ with
  | some s, some ns =>
      (sortedNames s.backends).map fun name =>
        ⟨self, .routesTo, w.namespaced Kind.service.name ns name⟩
  | _, _ => []

/-- The `uses` link of a claim to the volume that it names. -/
def PersistentVolumeClaimObject.links (w : Writer) (self : NodeRef)
    (o : PersistentVolumeClaimObject) : List Link :=
  (o.spec.bind (·.volume)).toList.map fun name =>
    ⟨self, .uses, w.named Kind.persistentVolume.name name⟩

/-- The same link from the other side: the `uses` link of the claim that a volume is bound to.
Whichever of the two comes last finds the other and makes the link. -/
def PersistentVolumeObject.links (w : Writer) (self : NodeRef) (o : PersistentVolumeObject) :
    List Link :=
  o.claim?.toList.map fun c =>
    ⟨w.namespaced Kind.persistentVolumeClaim.name c.namespace_ c.name, .uses, self⟩

/-- The `scales` link of an autoscaler to its target, if `OwnerKinds.labelFor?` knows the kind of
the target. -/
def scaleLinks (w : Writer) (self : NodeRef) (m : ObjectMeta) (target : ScaleTarget) :
    List Link :=
  match w.owners.labelFor? target.kind, m.namespace_ with
  | some label, some ns => [⟨self, .scales, w.namespaced label ns target.name⟩]
  | _, _ => []

/-- The `involves` link of an event to the object that it is about, if `OwnerKinds.labelFor?` knows
the kind of that object. -/
def EventObject.links (w : Writer) (self : NodeRef) (o : EventObject) : List Link :=
  match o.involvedKind, o.involvedUid with
  | some kind, some uid =>
      (w.owners.labelFor? kind).toList.map fun label => ⟨self, .involves, .byUid label uid⟩
  | _, _ => []

namespace ObjectOf

/-- The links of an object that its metadata says nothing of. -/
def ownLinks (w : Writer) (self : NodeRef) : (k : Kind) → ObjectOf k → List Link
  | .pod, o => PodObject.links w self o
  | .ingress, o => IngressObject.links w self o
  | .persistentVolumeClaim, o => PersistentVolumeClaimObject.links w self o
  | .persistentVolume, o => PersistentVolumeObject.links w self o
  | .horizontalPodAutoscaler, o =>
      match HorizontalPodAutoscalerObject.spec o with
      | some s => scaleLinks w self (HorizontalPodAutoscalerObject.objectMeta o) s.target
      | none => []
  | .scaledObject, o =>
      scaleLinks w self (ScaledObjectObject.objectMeta o) (ScaledObjectObject.target o)
  | .event, o => EventObject.links w self o
  | _, _ => []

/-- All links that are known from the object alone: `metadataLinks`, if the kind follows them, and
then `ownLinks`. -/
def links (w : Writer) (self : NodeRef) (k : Kind) (o : ObjectOf k) : List Link :=
  (if followsMetadata k then metadataLinks w self (objectMeta k o) else [])
    ++ ownLinks w self k o

end ObjectOf

/-! ### Selection -/

/-- Search for the other ends of links that the object alone does not tell: among the nodes with
`label` in a namespace, `link?` decides by the properties which are to be linked, and how. -/
structure Search where
  label : String
  namespace_ : String
  link? : Properties → Option Link

namespace Search

/-- The call that lists the candidates of a search: the nodes with its label in its namespace that
this instance wrote. -/
def call (w : Writer) (s : Search) : Call :=
  .list s.label
    [ (Key.namespace_, s.namespace_),
      (Key.clusterName, w.id.cluster),
      (Key.instanceHash, w.id.hash) ]

end Search

/-- The text that stored properties hold under `key`. -/
def storedText? (p : Properties) (key : String) : Option String :=
  (p.find? key).bind PropertyValue.text?

/-- The search of a pod for services: a service is linked to the pod by `selects` if its stored
selector `selects` the labels of the pod. A pod without a specification searches for nothing. -/
def PodObject.search? (self : NodeRef) (o : PodObject) : Option Search :=
  match o.spec, o.objectMeta.namespace_ with
  | some _, some ns =>
      let labels := o.objectMeta.labels.map storedTextMap
      some
        { label := Kind.service.name
          namespace_ := ns
          link? := fun service => do
            let selector ← storedSelector? (service.find? "selector")
            let uid ← storedText? service Key.uid
            if selects selector labels then
              some ⟨.byUid Kind.service.name uid, .selects, self⟩
            else none }
  | _, _ => none

/-- The search of a service for pods: a pod is linked by `selects` if the selector of the service
`selects` its stored labels. A service without a selector searches for nothing. -/
def ServiceObject.search? (self : NodeRef) (o : ServiceObject) : Option Search :=
  match o.spec.bind (·.selector), o.objectMeta.namespace_ with
  | some selector, some ns =>
      some
        { label := Kind.pod.name
          namespace_ := ns
          link? := fun pod => do
            let uid ← storedText? pod Key.uid
            if selects selector (storedText? pod "labels") then
              some ⟨self, .selects, .byUid Kind.pod.name uid⟩
            else none }
  | _, _ => none

/-- The search of an object. Only pods and services have one. -/
def ObjectOf.search? (self : NodeRef) : (k : Kind) → ObjectOf k → Option Search
  | .pod, o => PodObject.search? self o
  | .service, o => ServiceObject.search? self o
  | _, _ => none

end ClusterGraph
