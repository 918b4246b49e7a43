import ClusterGraph.Proofs.Projection.Matching
import ClusterGraph.Proofs.Projection.Registering

/-!
# ClusterGraph.Proofs.Projection.Joining

**What a pod is joined to, said by its specification and by nothing that is asked of a store.**

`PodObject.Relates` lists the reasons for which a pod and another node are related: owners, the
namespace, the cluster node it runs on, what its volumes and containers name, and the services that
select it. Creating a pod adds these relationships and no others, each once, after those that were
there (`Sync.created_pod_edges`).

Each reason is a link, and a link joins all nodes that its two references mean (`Link.Joins`). The
links for services are made from nodes that were found and refer to them by identifier, so here no
two services may share one (`Graph.OnePerUid`).
-/

namespace ClusterGraph

/-! ## Nodes by what they hold -/

namespace Node

/-- Node with `label` that holds `uid`. -/
structure HasIdentity (label uid : String) (n : Node) : Prop where
  labelled : n.hasLabel label = true
  identified : n.text? Key.uid = some uid

/-- Node with `label` that is called `name`, in the cluster of `w`. -/
structure IsNamed (w : Writer) (label name : String) (n : Node) : Prop where
  labelled : n.hasLabel label = true
  named : n.text? Key.name = some name
  within : n.text? Key.clusterName = some w.id.cluster

/-- Node with `label` that is called `name` in the namespace `ns`, in the cluster of `w`. -/
structure IsNamedIn (w : Writer) (label ns name : String) (n : Node) : Prop where
  labelled : n.hasLabel label = true
  named : n.text? Key.namespacedName = some (ns ++ "/" ++ name)
  within : n.text? Key.clusterName = some w.id.cluster

variable {w : Writer} {label ns name uid : String} {n : Node}

theorem isMeantBy_byUid_iff : n.isMeantBy (.byUid label uid) = true ↔ n.HasIdentity label uid :=
  isMeantBy_uid.trans ⟨fun ⟨h, h'⟩ => ⟨h, h'⟩, fun ⟨h, h'⟩ => ⟨h, h'⟩⟩

theorem holdsText_iff {key value : String} :
    n.holdsText key value = true ↔ n.text? key = some value :=
  decide_eq_true_iff

theorem isMeantBy_named_iff : n.isMeantBy (w.named label name) = true ↔ n.IsNamed w label name := by
  show (n.hasLabel label && n.holdsText Key.name name && n.holdsText Key.clusterName w.id.cluster)
    = true ↔ _
  rw [Bool.and_eq_true, Bool.and_eq_true, holdsText_iff, holdsText_iff]
  exact ⟨fun ⟨⟨h, h'⟩, h''⟩ => ⟨h, h', h''⟩, fun ⟨h, h', h''⟩ => ⟨⟨h, h'⟩, h''⟩⟩

theorem isMeantBy_namespaced_iff :
    n.isMeantBy (w.namespaced label ns name) = true ↔ n.IsNamedIn w label ns name := by
  show (n.hasLabel label && n.holdsText Key.namespacedName (ns ++ "/" ++ name)
    && n.holdsText Key.clusterName w.id.cluster) = true ↔ _
  rw [Bool.and_eq_true, Bool.and_eq_true, holdsText_iff, holdsText_iff]
  exact ⟨fun ⟨⟨h, h'⟩, h''⟩ => ⟨h, h', h''⟩, fun ⟨h, h', h''⟩ => ⟨⟨h, h'⟩, h''⟩⟩

end Node

/-! ## One node for an identifier -/

namespace Graph

/-- For each label and `uid`, at most one node. -/
def OnePerUid (g : Graph) : Prop :=
  ∀ label uid, (g.nodesAt (.byUid label uid)).length ≤ 1

variable {g : Graph} {label uid : String} {p : Properties}

theorem OnePerUid.eq (hg : g.OnePerUid) {n m : Node} (hn : n ∈ g.nodes) (hm : m ∈ g.nodes)
    (hnuid : n.HasIdentity label uid) (hmuid : m.HasIdentity label uid) : n = m := by
  have hone : (g.nodesWhere (·.isMeantBy (.byUid label uid))).length ≤ 1 := hg label uid
  exact eq_of_nodesWhere hone hn hm (Node.isMeantBy_byUid_iff.mpr hnuid)
    (Node.isMeantBy_byUid_iff.mpr hmuid)

/-- If the `uid`s of all nodes are distinct, the graph is `OnePerUid`. -/
theorem OnePerUid.of_nodup (h : (g.nodes.map (·.text? Key.uid)).Nodup) : g.OnePerUid := by
  intro label uid
  have hsame : (g.nodesAt (.byUid label uid)).map (·.text? Key.uid)
      = List.replicate (g.nodesAt (.byUid label uid)).length (some uid) := by
    refine List.eq_replicate_iff.mpr ⟨List.length_map _, fun found hfound => ?_⟩
    obtain ⟨n, hn, rfl⟩ := List.mem_map.mp hfound
    exact (Node.isMeantBy_uid.mp (mem_nodesAt.mp hn).2).2
  have hnodup := h.sublist ((List.filter_sublist (p := (·.isMeantBy (.byUid label uid)))).map _)
  rw [nodesAt, nodesWhere] at hsame ⊢
  rw [hsame] at hnodup
  exact List.nodup_replicate.mp hnodup

/-- An upsert by `uid` keeps `OnePerUid`, as it finds the node with this `uid` if there is one. -/
theorem OnePerUid.upsert (hg : g.OnePerUid) (hp : p.find? Key.uid = some (.text uid)) :
    (g.upsert [label] Key.uid (.text uid) p).OnePerUid := by
  have hwritten : ∀ {id : Nat} {labels : List String},
      (⟨id, labels, p⟩ : Node).text? Key.uid = some uid := by
    intro id labels
    unfold Node.text?
    rw [hp]
    rfl
  intro label' uid'
  have hold := hg label' uid'
  unfold nodesAt nodesWhere at hold ⊢
  rcases g.upsert_cases [label] Key.uid (.text uid) p with
    ⟨before, n, after, hnodes, -, htarget, hgraph⟩ | ⟨hnone, hadded⟩
  · have hsame : ({ n with properties := p } : Node).isMeantBy (.byUid label' uid')
        = n.isMeantBy (.byUid label' uid') := by
      rw [Bool.eq_iff_iff, NodeRef.byUid, Node.isMeantBy_uid, Node.isMeantBy_uid, hwritten,
        (Node.isUpsertTarget_uid.mp htarget).2]
      rfl
    rw [hnodes] at hold
    rw [hgraph]
    simp only [List.filter_append, List.filter_cons, hsame, List.length_append] at hold ⊢
    split <;> simp_all
  · rw [hadded, nodes_addNode, List.filter_append, List.length_append]
    by_cases hmeant : (⟨g.nextId, [label], p⟩ : Node).isMeantBy (.byUid label' uid') = true
    · obtain ⟨hlabel, huid⟩ := Node.isMeantBy_uid.mp hmeant
      rw [hwritten] at huid
      cases huid
      cases (Node.hasLabel_iff_of_labels_eq rfl).mp hlabel
      have hmissing : g.nodes.filter (·.isMeantBy (.byUid label uid)) = [] := by
        refine List.filter_eq_nil_iff.mpr fun n hn hmeant => ?_
        have hother := hnone n hn
        rw [Node.isUpsertTarget_uid.mpr (Node.isMeantBy_uid.mp hmeant)] at hother
        cases hother
      rw [hmissing, List.length_nil, Nat.zero_add]
      exact List.length_filter_le _ _
    · have hother : [(⟨g.nextId, [label], p⟩ : Node)].filter
          (·.isMeantBy (.byUid label' uid')) = [] := List.filter_cons_of_neg hmeant
      rw [hother]
      exact hold

end Graph

/-! ## What a pod calls for -/

/-- Reference relation of a pod: its specification names an object of the kind and the name, in a
volume, in the environment of a container, or as a secret to pull images with. -/
inductive PodSpec.Refers (s : PodSpec) : Kind → String → Prop where
  | mapVolume {v : Volume} {name : String} (hv : v ∈ s.volumes) (hname : v.configMap = some name) :
      Refers s .configMap name
  | secretVolume {v : Volume} {name : String} (hv : v ∈ s.volumes) (hname : v.secret = some name) :
      Refers s .secret name
  | claimVolume {v : Volume} {name : String} (hv : v ∈ s.volumes) (hname : v.claim = some name) :
      Refers s .persistentVolumeClaim name
  | mapEnvironment {c : Container} {source : EnvironmentSource} {name : String}
      (hc : c ∈ s.containers ∨ c ∈ s.initContainers) (hsource : source ∈ c.environment)
      (hname : source.configMap = some name) : Refers s .configMap name
  | secretEnvironment {c : Container} {source : EnvironmentSource} {name : String}
      (hc : c ∈ s.containers ∨ c ∈ s.initContainers) (hsource : source ∈ c.environment)
      (hname : source.secret = some name) : Refers s .secret name
  | pull {name : String} (hname : name ∈ s.pullSecrets) : Refers s .secret name

namespace PodObject

/-- Node `n` is the one of the pod `o`, by its `uid`. -/
def IsNode (o : PodObject) (n : Node) : Prop :=
  ∃ uid, o.objectMeta.uid = some uid ∧ uid ≠ "" ∧ n.HasIdentity Kind.pod.name uid

/-- Specification of the edges of a pod, written without `ObjectOf.relations`: the reasons for an
edge between two nodes, one of which is that of the pod. -/
inductive Relates (w : Writer) (o : PodObject) : Node → Relationship → Node → Prop where
  | managed {owner : OwnerReference} {label : String} {a me : Node}
      (howner : owner ∈ o.objectMeta.owners) (hlabel : w.owners.labelFor? owner.kind = some label)
      (hcontrols : owner.controls = true) (ha : a.HasIdentity label owner.uid) (hme : o.IsNode me) :
      Relates w o a .manages me
  | owned {owner : OwnerReference} {label : String} {a me : Node}
      (howner : owner ∈ o.objectMeta.owners) (hlabel : w.owners.labelFor? owner.kind = some label)
      (hcontrols : owner.controls = false) (ha : a.HasIdentity label owner.uid)
      (hme : o.IsNode me) : Relates w o a .owns me
  | member {ns : String} {me b : Node} (hns : o.objectMeta.namespace_ = some ns)
      (hme : o.IsNode me) (hb : b.IsNamed w Label.namespace_ ns) : Relates w o me .belongsTo b
  | scheduled {s : PodSpec} {name : String} {me b : Node} (hspec : o.spec = some s)
      (hname : s.nodeName = some name) (hme : o.IsNode me) (hb : b.IsNamed w Kind.node.name name) :
      Relates w o me .scheduledOn b
  | uses {s : PodSpec} {ns name : String} {k : Kind} {me b : Node} (hspec : o.spec = some s)
      (hns : o.objectMeta.namespace_ = some ns) (hname : s.Refers k name) (hme : o.IsNode me)
      (hb : b.IsNamedIn w k.name ns name) : Relates w o me .uses b
  | selected {s : PodSpec} {ns uid : String} {selector labels : Dict String} {a me : Node}
      (hspec : o.spec = some s) (hns : o.objectMeta.namespace_ = some ns)
      (ha : a.IsListed w Kind.service.name ns) (huid : a.text? Key.uid = some uid)
      (hselector : storedSelector? (a.properties.find? "selector") = some selector)
      (hlabels : o.objectMeta.labels = some labels) (hsome : selector.entries ≠ [])
      (hcovered : ∀ entry ∈ selector.entries, labels.find? entry.1 = some entry.2)
      (hme : o.IsNode me) : Relates w o a .selects me

end PodObject

/-! ## Names that a pod uses -/

theorem mem_sortedNames {names : List String} {name : String} :
    name ∈ sortedNames names ↔ name ∈ names := by
  rw [sortedNames, Dict.mem_keys]
  constructor
  · intro hfound
    by_contra hmissing
    rw [Dict.find?_ofList_eq_none] at hfound
    · cases hfound
    · rintro binding hbinding rfl
      obtain ⟨name, hname, rfl⟩ := List.mem_map.mp hbinding
      exact hmissing hname
  · intro hname
    have hfound : (Dict.ofList (names.map fun name => (name, ()))).find? name = some () :=
      Dict.find?_ofList_eq_some (List.mem_map.mpr ⟨name, hname, rfl⟩) fun _ _ _ => rfl
    rw [hfound]
    rfl

namespace PodSpec

variable {s : PodSpec} {name : String}

theorem mem_environment {source : EnvironmentSource} : source ∈ s.environment
    ↔ ∃ c, (c ∈ s.containers ∨ c ∈ s.initContainers) ∧ source ∈ c.environment := by
  simp only [environment, List.mem_flatMap, List.mem_append]

theorem mem_configMaps : name ∈ s.configMaps ↔ s.Refers .configMap name := by
  simp only [configMaps, List.mem_append, List.mem_filterMap, mem_environment]
  constructor
  · rintro (⟨v, hv, hname⟩ | ⟨source, ⟨c, hc, hsource⟩, hname⟩)
    · exact .mapVolume hv hname
    · exact .mapEnvironment hc hsource hname
  · intro h
    cases h with
    | mapVolume hv hname => exact .inl ⟨_, hv, hname⟩
    | mapEnvironment hc hsource hname => exact .inr ⟨_, ⟨_, hc, hsource⟩, hname⟩

theorem mem_claims : name ∈ s.claims ↔ s.Refers .persistentVolumeClaim name := by
  rw [claims, List.mem_filterMap]
  constructor
  · rintro ⟨v, hv, hname⟩
    exact .claimVolume hv hname
  · rintro ⟨⟩
    exact ⟨_, ‹_›, ‹_›⟩

theorem mem_secrets : name ∈ s.secrets ↔ s.Refers .secret name := by
  simp only [secrets, List.mem_append, List.mem_filterMap, mem_environment]
  constructor
  · rintro ((⟨v, hv, hname⟩ | ⟨source, ⟨c, hc, hsource⟩, hname⟩) | hname)
    · exact .secretVolume hv hname
    · exact .secretEnvironment hc hsource hname
    · exact .pull hname
  · intro h
    cases h with
    | secretVolume hv hname => exact .inl (.inl ⟨_, hv, hname⟩)
    | secretEnvironment hc hsource hname => exact .inl (.inr ⟨_, ⟨_, hc, hsource⟩, hname⟩)
    | pull hname => exact .inr hname

/-- The names among `PodSpec.used` are those that the specification of the pod refers to. -/
theorem mem_used_iff {label : String} :
    (label, name) ∈ s.used ↔ ∃ k : Kind, k.name = label ∧ s.Refers k name := by
  simp only [used, List.mem_append, List.mem_map, Prod.mk.injEq, mem_sortedNames, mem_configMaps,
    mem_claims, mem_secrets]
  constructor
  · rintro ((⟨_, h, rfl, rfl⟩ | ⟨_, h, rfl, rfl⟩) | ⟨_, h, rfl, rfl⟩) <;> exact ⟨_, rfl, h⟩
  · rintro ⟨k, rfl, h⟩
    have hkind : k = .configMap ∨ k = .persistentVolumeClaim ∨ k = .secret := by
      cases h <;> simp
    rcases hkind with rfl | rfl | rfl
    · exact .inl (.inl ⟨name, h, rfl, rfl⟩)
    · exact .inl (.inr ⟨name, h, rfl, rfl⟩)
    · exact .inr ⟨name, h, rfl, rfl⟩

end PodSpec

/-! ## Links and the nodes that they join -/

/-- Link `l` leads to an edge `rel` from `a` to `b`: its names are identifiers, and its references
mean these nodes. -/
structure Link.Joins (l : Link) (a : Node) (rel : Relationship) (b : Node) : Prop where
  valid : l.isValid = true
  relates : l.rel = rel
  source : a.isMeantBy l.source = true
  target : b.isMeantBy l.target = true

theorem Link.mem_edges_iff {nodes : List Node} {l : Link} {e : Edge} :
    e ∈ l.edges nodes ↔ ∃ a ∈ nodes, ∃ b ∈ nodes, a.id = e.source ∧ b.id = e.target
      ∧ l.Joins a e.rel b := by
  rw [mem_edges]
  constructor
  · rintro ⟨hvalid, hrel, ⟨a, ha, hsource, haid⟩, b, hb, htarget, hbid⟩
    exact ⟨a, ha, b, hb, haid, hbid, hvalid, hrel.symm, hsource, htarget⟩
  · rintro ⟨a, ha, b, hb, haid, hbid, hvalid, hrel, hsource, htarget⟩
    exact ⟨hvalid, hrel.symm, ⟨a, ha, hsource, haid⟩, b, hb, htarget, hbid⟩

namespace PodObject

variable {w : Writer} {o : PodObject} {uid : String} {nodes : List Node} {a b n : Node}
  {rel : Relationship}

theorem isNode_iff (huid : o.objectMeta.uid = some uid) (hne : uid ≠ "") :
    o.IsNode n ↔ n.isMeantBy (.byUid Kind.pod.name uid) = true := by
  rw [Node.isMeantBy_byUid_iff]
  constructor
  · rintro ⟨uid', huid', -, hn⟩
    cases huid.symm.trans huid'
    exact hn
  · exact fun hn => ⟨uid, huid, hne, hn⟩

/-- Inversion of `ObjectOf.relations` for pods: its links have one of five forms. -/
inductive Calls (w : Writer) (o : PodObject) (self : NodeRef) (nodes : List Node) : Link → Prop where
  | owner {owner : OwnerReference} {label : String} (howner : owner ∈ o.objectMeta.owners)
      (hlabel : w.owners.labelFor? owner.kind = some label) :
      Calls w o self nodes
        ⟨.byUid label owner.uid, if owner.controls then .manages else .owns, self⟩
  | member {ns : String} (hns : o.objectMeta.namespace_ = some ns) :
      Calls w o self nodes ⟨self, .belongsTo, w.named Label.namespace_ ns⟩
  | scheduled {s : PodSpec} {name : String} (hspec : o.spec = some s)
      (hname : s.nodeName = some name) :
      Calls w o self nodes ⟨self, .scheduledOn, w.named Kind.node.name name⟩
  | uses {s : PodSpec} {ns name : String} {k : Kind} (hspec : o.spec = some s)
      (hns : o.objectMeta.namespace_ = some ns) (hname : s.Refers k name) :
      Calls w o self nodes ⟨self, .uses, w.namespaced k.name ns name⟩
  | selected {n : Node} {l : Link} (hn : n ∈ nodes)
      (hsearch : ∃ q, search? self o = some q ∧ q.Links w n l) : Calls w o self nodes l

theorem mem_links_iff {self : NodeRef} {l : Link} :
    l ∈ links w self o
      ↔ (∃ s name, o.spec = some s ∧ s.nodeName = some name
          ∧ l = ⟨self, .scheduledOn, w.named Kind.node.name name⟩)
        ∨ ∃ s ns, o.spec = some s ∧ o.objectMeta.namespace_ = some ns
          ∧ ∃ (k : Kind) (name : String), s.Refers k name
            ∧ l = ⟨self, .uses, w.namespaced k.name ns name⟩ := by
  rw [links, List.mem_append]
  refine or_congr ?_ ?_
  · simp only [List.mem_map, Option.mem_toList, Option.bind_eq_some_iff]
    constructor
    · rintro ⟨name, ⟨s, hspec, hname⟩, rfl⟩
      exact ⟨s, name, hspec, hname, rfl⟩
    · rintro ⟨s, name, hspec, hname, rfl⟩
      exact ⟨name, ⟨s, hspec, hname⟩, rfl⟩
  · cases hspec : o.spec with
    | none => simp
    | some s =>
        cases hns : o.objectMeta.namespace_ with
        | none => simp
        | some ns =>
            simp only [List.mem_map, Prod.exists, PodSpec.mem_used_iff]
            constructor
            · rintro ⟨_, name, ⟨k, rfl, hname⟩, rfl⟩
              exact ⟨s, ns, rfl, rfl, k, name, hname, rfl⟩
            · rintro ⟨_, _, hs, hns, k, name, hname, rfl⟩
              cases hs
              cases hns
              exact ⟨k.name, name, ⟨k, rfl, hname⟩, rfl⟩

theorem mem_relations_iff {l : Link} (huid : o.objectMeta.uid = some uid) :
    l ∈ ObjectOf.relations w .pod o nodes ↔ o.Calls w (.byUid Kind.pod.name uid) nodes l := by
  have hself : Sync.self .pod (ObjectOf.objectMeta .pod o) = .byUid Kind.pod.name uid := by
    show NodeRef.byUid _ (o.objectMeta.uid.getD "") = _
    rw [huid]
    rfl
  rw [ObjectOf.mem_relations_iff, hself]
  show l ∈ (o.objectMeta.owners.filterMap (ownerLink? w _) ++ membership w _ o.objectMeta)
    ++ links w _ o ∨ (∃ n ∈ nodes, ∃ q, search? _ o = some q ∧ q.Links w n l) ↔ _
  rw [List.mem_append, List.mem_append, mem_links_iff]
  simp only [List.mem_filterMap, ownerLink?, Option.map_eq_some_iff, membership, List.mem_map,
    Option.mem_toList]
  constructor
  · rintro (((⟨owner, howner, label, hlabel, rfl⟩ | ⟨ns, hns, rfl⟩)
      | ⟨s, name, hspec, hname, rfl⟩ | ⟨s, ns, hspec, hns, k, name, hname, rfl⟩)
      | ⟨n, hn, hsearch⟩)
    · exact .owner howner hlabel
    · exact .member hns
    · exact .scheduled hspec hname
    · exact .uses hspec hns hname
    · exact .selected hn hsearch
  · intro h
    cases h with
    | owner howner hlabel => exact .inl (.inl (.inl ⟨_, howner, _, hlabel, rfl⟩))
    | member hns => exact .inl (.inl (.inr ⟨_, hns, rfl⟩))
    | scheduled hspec hname => exact .inl (.inr (.inl ⟨_, _, hspec, hname, rfl⟩))
    | uses hspec hns hname => exact .inl (.inr (.inr ⟨_, _, hspec, hns, _, _, hname, rfl⟩))
    | selected hn hsearch => exact .inr ⟨_, hn, hsearch⟩

/-- All names in a link of a pod are identifiers, if the registered kinds are
(`OwnerKinds.Named`). -/
theorem Calls.isValid {l : Link} (hnames : w.owners.Named)
    (h : o.Calls w (.byUid Kind.pod.name uid) nodes l) : l.isValid = true := by
  have hkey : isIdentifier Key.uid = true ∧ isIdentifier Key.name = true
      ∧ isIdentifier Key.namespacedName = true ∧ isIdentifier Label.namespace_ = true := by
    decide
  cases h with
  | owner _ hlabel =>
      have hname := isIdentifier_iff.mpr (hnames _ _ hlabel).2
      simp [Link.isValid, NodeRef.byUid, hname, hkey, Kind.isIdentifier_name]
  | member =>
      simp [Link.isValid, NodeRef.byUid, Writer.named, NodeRef.byName, hkey, Kind.isIdentifier_name]
  | scheduled =>
      simp [Link.isValid, NodeRef.byUid, Writer.named, NodeRef.byName, hkey, Kind.isIdentifier_name]
  | uses =>
      simp [Link.isValid, NodeRef.byUid, Writer.namespaced, NodeRef.byNamespacedName, hkey,
        Kind.isIdentifier_name]
  | selected _ hsearch =>
      obtain ⟨-, -, -, -, -, -, -, -, -, rfl⟩ := search?_links_iff.mp hsearch
      simp [Link.isValid, NodeRef.byUid, hkey, Kind.isIdentifier_name]

/-- Some link of a pod joins `a` and `b` if and only if the pod `Relates` them. -/
theorem exists_joins_iff (hnames : w.owners.Named)
    (hone : ∀ uid, ∀ n ∈ nodes, ∀ m ∈ nodes, n.HasIdentity Kind.service.name uid →
      m.HasIdentity Kind.service.name uid → n = m)
    (hlabels : ∀ labels, o.objectMeta.labels = some labels → labels.Ordered)
    (huid : o.objectMeta.uid = some uid) (hne : uid ≠ "") (ha : a ∈ nodes) :
    (∃ l ∈ ObjectOf.relations w .pod o nodes, l.Joins a rel b) ↔ o.Relates w a rel b := by
  constructor
  · rintro ⟨l, hl, hjoins⟩
    cases (mem_relations_iff huid).mp hl with
    | @owner owner label howner hlabel =>
        obtain ⟨-, rfl, hsource, htarget⟩ := hjoins
        have hme := (isNode_iff huid hne).mpr htarget
        have hidentity := Node.isMeantBy_byUid_iff.mp hsource
        cases hcontrols : owner.controls with
        | true => exact .managed howner hlabel hcontrols hidentity hme
        | false => exact .owned howner hlabel hcontrols hidentity hme
    | member hns =>
        obtain ⟨-, rfl, hsource, htarget⟩ := hjoins
        exact .member hns ((isNode_iff huid hne).mpr hsource) (Node.isMeantBy_named_iff.mp htarget)
    | scheduled hspec hname =>
        obtain ⟨-, rfl, hsource, htarget⟩ := hjoins
        exact .scheduled hspec hname ((isNode_iff huid hne).mpr hsource)
          (Node.isMeantBy_named_iff.mp htarget)
    | uses hspec hns hname =>
        obtain ⟨-, rfl, hsource, htarget⟩ := hjoins
        exact .uses hspec hns hname ((isNode_iff huid hne).mpr hsource)
          (Node.isMeantBy_namespaced_iff.mp htarget)
    | @selected n _ hn hsearch =>
        obtain ⟨ns, selector, uid', hspec, hns, hlisted, hselector, huid', hselects, rfl⟩ :=
          search?_links_iff.mp hsearch
        obtain ⟨-, rfl, hsource, htarget⟩ := hjoins
        obtain ⟨s, hspec⟩ := Option.isSome_iff_exists.mp hspec
        obtain ⟨labels, hfound, hsome, hcovered⟩ :=
          (selects_map_storedTextMap_iff hlabels).mp hselects
        -- The link means a service by its identifier, and that is the one that was found.
        cases hone uid' n hn a ha ⟨hlisted.labelled, huid'⟩ (Node.isMeantBy_byUid_iff.mp hsource)
        exact .selected hspec hns hlisted huid' hselector hfound hsome hcovered
          ((isNode_iff huid hne).mpr htarget)
  · intro h
    have hjoins : ∀ l, o.Calls w (.byUid Kind.pod.name uid) nodes l → l.rel = rel →
        a.isMeantBy l.source = true → b.isMeantBy l.target = true →
        ∃ l ∈ ObjectOf.relations w .pod o nodes, l.Joins a rel b :=
      fun l hl hrel hsource htarget =>
        ⟨l, (mem_relations_iff huid).mpr hl, hl.isValid hnames, hrel, hsource, htarget⟩
    cases h with
    | managed howner hlabel hcontrols hidentity hme =>
        exact hjoins _ (.owner howner hlabel) (by simp [hcontrols])
          (Node.isMeantBy_byUid_iff.mpr hidentity) ((isNode_iff huid hne).mp hme)
    | owned howner hlabel hcontrols hidentity hme =>
        exact hjoins _ (.owner howner hlabel) (by simp [hcontrols])
          (Node.isMeantBy_byUid_iff.mpr hidentity) ((isNode_iff huid hne).mp hme)
    | member hns hme hb =>
        exact hjoins _ (.member hns) rfl ((isNode_iff huid hne).mp hme)
          (Node.isMeantBy_named_iff.mpr hb)
    | scheduled hspec hname hme hb =>
        exact hjoins _ (.scheduled hspec hname) rfl ((isNode_iff huid hne).mp hme)
          (Node.isMeantBy_named_iff.mpr hb)
    | uses hspec hns hname hme hb =>
        exact hjoins _ (.uses hspec hns hname) rfl ((isNode_iff huid hne).mp hme)
          (Node.isMeantBy_namespaced_iff.mpr hb)
    | @selected s ns uid' selector labels a me hspec hns hlisted huid' hselector hfound hsome
        hcovered hme =>
        have hselects := (selects_map_storedTextMap_iff hlabels).mpr ⟨_, hfound, hsome, hcovered⟩
        have hsearch : ∃ q, search? (.byUid Kind.pod.name uid) o = some q ∧ q.Links w a
            ⟨.byUid Kind.service.name uid', .selects, .byUid Kind.pod.name uid⟩ :=
          search?_links_iff.mpr ⟨_, _, _, Option.isSome_iff_exists.mpr ⟨_, hspec⟩, hns, hlisted,
            hselector, huid', hselects, rfl⟩
        exact hjoins _ (.selected ha hsearch) rfl
          (Node.isMeantBy_byUid_iff.mpr ⟨hlisted.labelled, huid'⟩) ((isNode_iff huid hne).mp hme)

/-- The edges after a pod was followed: those of before, and after them, each once, the new ones of
those that the pod `Relates`. -/
theorem edges_follow_eq_append {g : Graph} (hnames : w.owners.Named) (hone : g.OnePerUid)
    (hlabels : ∀ labels, o.objectMeta.labels = some labels → labels.Ordered)
    (huid : o.objectMeta.uid = some uid) (hne : uid ≠ "") (now : Instant) :
    ∃ added, (g.follow w now .pod o uid).edges = g.edges ++ added ∧ added.Nodup
      ∧ ∀ e, e ∈ added ↔ e ∉ g.edges ∧ ∃ a ∈ (g.follow w now .pod o uid).nodes,
        ∃ b ∈ (g.follow w now .pod o uid).nodes,
          a.id = e.source ∧ b.id = e.target ∧ o.Relates w a e.rel b := by
  obtain ⟨added, hedges, hnodup, hadded⟩ := Graph.edges_follow_eq_append (k := .pod) w now o uid g
  refine ⟨added, hedges, hnodup, fun e => (hadded e).trans (and_congr_right fun _ => ?_)⟩
  rw [Graph.nodes_follow]
  have hone' : (g.writeObject w now .pod o uid).OnePerUid :=
    hone.upsert (ObjectOf.storedUid w.id now uid .pod o)
  have hjoins : ∀ a ∈ (g.writeObject w now .pod o uid).nodes, ∀ b,
      (∃ l ∈ ObjectOf.relations w .pod o (g.writeObject w now .pod o uid).nodes,
        l.Joins a e.rel b) ↔ o.Relates w a e.rel b := fun a ha b =>
    exists_joins_iff hnames (fun _ _ hn _ hm => hone'.eq hn hm) hlabels huid hne ha
  simp only [Link.mem_edges_iff]
  constructor
  · rintro ⟨l, hl, a, ha, b, hb, haid, hbid, hjoined⟩
    exact ⟨a, ha, b, hb, haid, hbid, (hjoins a ha b).mp ⟨l, hl, hjoined⟩⟩
  · rintro ⟨a, ha, b, hb, haid, hbid, hrelates⟩
    obtain ⟨l, hl, hjoined⟩ := (hjoins a ha b).mpr hrelates
    exact ⟨l, hl, a, ha, b, hb, haid, hbid, hjoined⟩

theorem Relates.exists_isNode (h : o.Relates w a rel b) : ∃ n, o.IsNode n := by
  cases h with
  | managed _ _ _ _ hme => exact ⟨_, hme⟩
  | owned _ _ _ _ hme => exact ⟨_, hme⟩
  | member _ hme _ => exact ⟨_, hme⟩
  | scheduled _ _ hme _ => exact ⟨_, hme⟩
  | uses _ _ _ hme _ => exact ⟨_, hme⟩
  | selected _ _ _ _ _ _ _ _ hme => exact ⟨_, hme⟩

end PodObject

/-! ## Creating a pod -/

namespace Sync

/-- The edges of a pod, for any registrations of owner kinds and any graph that is `OnePerUid`. If
the pod has a `uid`, its node is there after `create`. The edges are those of before and after them
the new ones, each once: exactly the edges between nodes of the graph for which the pod gives a
reason (`PodObject.Relates`) and that were not there before. -/
theorem created_pod_edges {id : Identity} {requests : List Registration} {now : Instant}
    {raw : RawObject} {o : PodObject} {s : MemoryStore} (hwritable : s.writable = true)
    (hone : s.graph.OnePerUid) (hconvert : raw.convert .pod Kind.pod.name = .ok o)
    (hlabels : ∀ labels, o.objectMeta.labels = some labels → labels.Ordered) :
    let w : Writer := ⟨id, OwnerKinds.reached requests⟩
    let g := (created w now .pod raw s).graph
    (∀ uid, o.objectMeta.uid = some uid → uid ≠ "" → ∃ me ∈ g.nodes, o.IsNode me)
      ∧ ∃ added, g.edges = s.graph.edges ++ added ∧ added.Nodup
        ∧ ∀ e, e ∈ added ↔ e ∉ s.graph.edges ∧ ∃ a ∈ g.nodes, ∃ b ∈ g.nodes,
          a.id = e.source ∧ b.id = e.target ∧ o.Relates w a e.rel b := by
  intro w g
  by_cases hidentity : ∃ uid, o.objectMeta.uid = some uid ∧ uid ≠ ""
  · obtain ⟨uid, huid, hne⟩ := hidentity
    have hg : g = s.graph.follow w now .pod o uid := graph_created w now hconvert huid hne hwritable
    rw [hg]
    constructor
    · rintro uid' huid' -
      obtain ⟨me, hme, htarget, -⟩ :=
        Graph.exists_mem_upsert_target (ObjectOf.storedUid w.id now uid .pod o)
      exact ⟨me, hme, (PodObject.isNode_iff huid hne).mpr
        (Node.isMeantBy_uid.mpr (Node.isUpsertTarget_uid.mp htarget))⟩
    · exact PodObject.edges_follow_eq_append (OwnerKinds.named_reached requests) hone hlabels huid
        hne now
  · have hunidentified : ∀ uid, o.objectMeta.uid = some uid → uid = "" := by
      intro uid huid
      by_contra hne
      exact hidentity ⟨uid, huid, hne⟩
    have hg : g = s.graph := congrArg MemoryStore.graph
      (created_of_unidentified w now hconvert hunidentified)
    rw [hg]
    refine ⟨fun uid huid hne => absurd ⟨uid, huid, hne⟩ hidentity, [], (List.append_nil _).symm,
      .nil, fun e => iff_of_false List.not_mem_nil ?_⟩
    rintro ⟨-, a, -, b, -, -, -, hrelates⟩
    obtain ⟨_, uid, huid, hne, -⟩ := hrelates.exists_isNode
    exact hidentity ⟨uid, huid, hne⟩

/-- Nodes of a shop: a replica set, a service, the namespace, and two configuration maps of one name
in different clusters. -/
def shopNodes : Graph :=
  let here : List (String × PropertyValue) :=
    [(Key.namespace_, .text "shop"), (Key.clusterName, .text "c1"), (Key.instanceHash, .text "h1")]
  let map (id : Nat) (uid cluster : String) : Node :=
    ⟨id, ["ConfigMap"], Dict.ofList [(Key.uid, .text uid), (Key.clusterName, .text cluster),
      (Key.namespacedName, .text "shop/settings")]⟩
  ⟨5, [⟨0, ["ReplicaSet"], Dict.ofList [(Key.uid, .text "r")]⟩,
    ⟨1, ["Service"], Dict.ofList (here ++ [(Key.uid, .text "s"),
      ("selector", .text (storedTextMap (Dict.ofList [("app", "web")])))])⟩,
    map 2 "m" "c1", map 3 "m2" "c2",
    ⟨4, ["Namespace"], Dict.ofList (here ++ [(Key.uid, .text "n"), (Key.name, .text "shop")])⟩],
    []⟩

/-- A pod of the shop. It is managed by the replica set, has the labels that the service selects,
and names the configuration map twice. -/
def shopPod : PodObject where
  objectMeta := ⟨some "p", some "web-1", some "shop", some (Dict.ofList [("app", "web")]), none, none,
    [⟨"ReplicaSet", "r", true⟩, ⟨"Gadget", "g", true⟩]⟩
  spec := some ⟨none, none, none, [⟨"web", none, [⟨some "settings", none⟩]⟩],
    [⟨"setup", none, [⟨some "settings", none⟩]⟩], [], []⟩
  status := none

/-- Writer for the shop, for which one of two registrations was refused. -/
def shopKinds : Writer :=
  ⟨⟨"c1", "h1"⟩, OwnerKinds.reached [.own "ReplicaSet", .own "not a name"]⟩

/-- The graph after the pod was followed. -/
def withShopPod : Graph :=
  (created shopKinds ⟨0, 0⟩ .pod (.typed .pod shopPod) (.ofGraph shopNodes)).graph

/-- Instance of `created_pod_edges`: the configuration map of the other cluster gets no edge, and
neither does the owner whose kind is not registered. -/
theorem created_pod_edges_shop :
    withShopPod.edges = [⟨0, .manages, 5⟩, ⟨5, .belongsTo, 4⟩, ⟨5, .uses, 2⟩, ⟨1, .selects, 5⟩]
      ∧ ∀ e ∈ withShopPod.edges, ∃ a ∈ withShopPod.nodes, ∃ b ∈ withShopPod.nodes,
        a.id = e.source ∧ b.id = e.target ∧ shopPod.Relates shopKinds a e.rel b := by
  have hordered : ∀ labels, shopPod.objectMeta.labels = some labels → labels.Ordered := by
    rintro _ ⟨⟩
    exact Dict.ordered_ofList _
  have hone : shopNodes.OnePerUid := .of_nodup (by decide +kernel)
  obtain ⟨-, added, hedges, -, hadded⟩ := @created_pod_edges ⟨"c1", "h1"⟩
    [.own "ReplicaSet", .own "not a name"] ⟨0, 0⟩ (.typed .pod shopPod) shopPod (.ofGraph shopNodes)
    rfl hone rfl hordered
  refine ⟨by decide +kernel, fun e he => ((hadded e).mp ?_).2⟩
  have hnew : withShopPod.edges = [] ++ added := hedges
  rwa [hnew] at he

end Sync
end ClusterGraph
