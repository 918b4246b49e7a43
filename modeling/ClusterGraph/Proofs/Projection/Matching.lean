import ClusterGraph.Proofs.Json.TextMaps
import ClusterGraph.Proofs.Projection.Converging

/-!
# ClusterGraph.Proofs.Projection.Matching

**A selection reads the same from both of its sides.**

A service holds its selector against the labels that the node of a pod has in store; a pod holds
its labels against the selector that the node of a service has in store. Both come to what the
two objects say of each other (`Subject.Selects`), because what is stored is read back as it was.

The two sides do not look under the same conditions, though. A service looks whenever it has a
selector and a namespace. A pod looks only if it comes with a specification, of which the search
itself makes no use (`Subject.Makes`).
-/

namespace ClusterGraph

/-- Services and pods, the two sides of `selects`. -/
def Kind.isSide : Kind → Bool
  | .service | .pod => true
  | _ => false

theorem Json.stored?_ofText? (t : Option String) :
    (Json.ofText? t).stored? = t.map PropertyValue.text := by
  cases t <;> rfl

theorem Json.stored?_ofTextMap? (d : Option (Dict String)) :
    (Json.ofTextMap? d).stored? = d.map fun d => .text (storedTextMap d) := by
  cases d <;> rfl

namespace ObjectOf

/-- The selector of a service; `none` for every other kind. -/
def selector? : (k : Kind) → ObjectOf k → Option (Dict String)
  | .service, o => (ServiceObject.spec o).bind (·.selector)
  | _, _ => none

/-- Whether the object is a pod with a specification. -/
def isSpecified : (k : Kind) → ObjectOf k → Bool
  | .pod, o => (PodObject.spec o).isSome
  | _, _ => false

/-! ## What nodes on either side hold -/

section Stored

variable {id : Identity} {now : Instant} {uid key : String} {k : Kind} {o : ObjectOf k}

/-- The node of a service holds its selector in a form that `storedSelector?` reads back. -/
theorem storedSelector?_fields {o : ObjectOf .service}
    (hordered : ∀ selector, selector? .service o = some selector → selector.Ordered) :
    storedSelector? ((storedProperties (fields id now uid .service o)).find? "selector")
      = selector? .service o := by
  have hmetadata : ∀ f ∈ metadataFields id uid (objectMeta .service o), f.1 ≠ "selector" := by
    unfold metadataFields namespacedField
    split <;> simp [Key.uid, Key.name, Key.namespace_, Key.clusterName, Key.instanceHash,
      Key.annotations, Key.namespacedName]
  cases hspec : ServiceObject.spec o with
  | none =>
      have hown : ownFields now .service o = [] := by
        simp [ownFields, ServiceObject.fields, fieldsOf, hspec]
      rw [stored_of_absent fun f hf hfkey => ?_]
      · simp only [selector?, hspec]
        rfl
      · rw [hown, List.append_nil] at hf
        exact absurd hfkey (hmetadata f hf)
  | some spec =>
      have hown : ownFields now .service o = [("type", .ofText? spec.type),
          ("clusterIP", .ofText? spec.clusterIP), ("externalName", .ofText? spec.externalName),
          ("selector", .ofTextMap? spec.selector), ("ports", spec.ports.getD .null)] := by
        simp [ownFields, ServiceObject.fields, fieldsOf, hspec]
      have hstored : (storedProperties (fields id now uid .service o)).find? "selector"
          = (Json.ofTextMap? spec.selector).stored? := by
        refine stored_of_fields rfl (List.mem_append_right _ (by simp [hown])) fun f hf hfkey => ?_
        rcases List.mem_append.mp hf with hf | hf
        · exact absurd hfkey (hmetadata f hf)
        · rw [hown] at hf
          simp only [List.mem_cons, List.not_mem_nil, or_false] at hf
          rcases hf with rfl | rfl | rfl | rfl | rfl <;> simp at hfkey
          rfl
      have hselector : selector? .service o = spec.selector := by
        simp [selector?, hspec]
      rw [hstored, hselector, Json.stored?_ofTextMap?]
      cases hfound : spec.selector with
      | none => rfl
      | some selector =>
          exact parseTextMap?_storedTextMap (hordered selector (hselector.trans hfound))

end Stored

end ObjectOf

/-! ## What a search makes of a node -/

/-- Node `n` is among the answers to `Search.call`, for the label and the namespace of a search. -/
structure Node.IsListed (w : Writer) (label ns : String) (n : Node) : Prop where
  labelled : n.hasLabel label = true
  within : n.text? Key.namespace_ = some ns
  cluster : n.text? Key.clusterName = some w.id.cluster
  hash : n.text? Key.instanceHash = some w.id.hash

/-- The search `q` lists the node `n` and comes to the link `l` for it. -/
structure Search.Links (w : Writer) (q : Search) (n : Node) (l : Link) : Prop where
  listed : n.IsListed w q.label q.namespace_
  linked : q.link? n.properties = some l

section Searches

variable {w : Writer} {self : NodeRef} {n : Node} {l : Link}

theorem Search.isCandidate_iff {q : Search} :
    q.isCandidate w n = true ↔ n.IsListed w q.label q.namespace_ := by
  simp only [isCandidate, Node.holdsText, Bool.and_eq_true, decide_eq_true_eq]
  constructor
  · rintro ⟨hlabel, hns, hcluster, hhash⟩
    exact ⟨hlabel, hns, hcluster, hhash⟩
  · rintro ⟨hlabel, hns, hcluster, hhash⟩
    exact ⟨hlabel, hns, hcluster, hhash⟩

/-- The relations of an object among `nodes` are `ObjectOf.links`, and the links that its search
comes to for one of the nodes. -/
theorem ObjectOf.mem_relations_iff {k : Kind} {o : ObjectOf k} {nodes : List Node} :
    l ∈ relations w k o nodes ↔ l ∈ links w (Sync.self k (objectMeta k o)) k o
      ∨ ∃ n ∈ nodes, ∃ q, search? (Sync.self k (objectMeta k o)) k o = some q
        ∧ q.Links w n l := by
  rw [relations, List.mem_append]
  refine or_congr_right ?_
  cases search? (Sync.self k (objectMeta k o)) k o with
  | none => simp
  | some q =>
      simp only [Option.map_some, Option.getD_some, Search.mem_found, Option.some.injEq,
        exists_eq_left', Search.isCandidate_iff]
      exact exists_congr fun n => and_congr_right fun _ =>
        ⟨fun ⟨hlisted, hlinked⟩ => ⟨hlisted, hlinked⟩, fun ⟨hlisted, hlinked⟩ => ⟨hlisted, hlinked⟩⟩

theorem ServiceObject.search?_links_iff {o : ServiceObject} :
    (∃ q, search? self o = some q ∧ q.Links w n l)
      ↔ ∃ selector ns uid, o.spec.bind (·.selector) = some selector
        ∧ o.objectMeta.namespace_ = some ns ∧ n.IsListed w Kind.pod.name ns
        ∧ n.text? Key.uid = some uid ∧ selects selector (n.text? "labels") = true
        ∧ l = ⟨self, .selects, .byUid Kind.pod.name uid⟩ := by
  constructor
  · rintro ⟨q, hq, hlisted, hl⟩
    unfold search? at hq
    split at hq
    · rename_i selector ns hselector hns
      cases hq
      obtain ⟨uid, huid, hl⟩ := Option.bind_eq_some_iff.mp hl
      obtain ⟨hselects, hl⟩ := Option.ite_none_right_eq_some.mp hl
      exact ⟨selector, ns, uid, hselector, hns, hlisted, huid, hselects, (Option.some.inj hl).symm⟩
    · cases hq
  · rintro ⟨selector, ns, uid, hselector, hns, hlisted, huid, hselects, rfl⟩
    unfold search?
    rw [hselector, hns]
    refine ⟨_, rfl, hlisted, Option.bind_eq_some_iff.mpr ⟨uid, huid, ?_⟩⟩
    exact if_pos hselects

theorem PodObject.search?_links_iff {o : PodObject} :
    (∃ q, search? self o = some q ∧ q.Links w n l)
      ↔ ∃ ns selector uid, o.spec.isSome = true ∧ o.objectMeta.namespace_ = some ns
        ∧ n.IsListed w Kind.service.name ns
        ∧ storedSelector? (n.properties.find? "selector") = some selector
        ∧ n.text? Key.uid = some uid
        ∧ selects selector (o.objectMeta.labels.map storedTextMap) = true
        ∧ l = ⟨.byUid Kind.service.name uid, .selects, self⟩ := by
  constructor
  · rintro ⟨q, hq, hlisted, hl⟩
    unfold search? at hq
    split at hq
    · rename_i spec ns hspec hns
      cases hq
      obtain ⟨selector, hselector, hl⟩ := Option.bind_eq_some_iff.mp hl
      obtain ⟨uid, huid, hl⟩ := Option.bind_eq_some_iff.mp hl
      obtain ⟨hselects, hl⟩ := Option.ite_none_right_eq_some.mp hl
      exact ⟨ns, selector, uid, by rw [hspec]; rfl, hns, hlisted, hselector, huid, hselects,
        (Option.some.inj hl).symm⟩
    · cases hq
  · rintro ⟨ns, selector, uid, hspec, hns, hlisted, hselector, huid, hselects, rfl⟩
    obtain ⟨spec, hspec⟩ := Option.isSome_iff_exists.mp hspec
    unfold search?
    rw [hspec, hns]
    refine ⟨_, rfl, hlisted, Option.bind_eq_some_iff.mpr ⟨selector, hselector, ?_⟩⟩
    exact Option.bind_eq_some_iff.mpr ⟨uid, huid, if_pos hselects⟩

end Searches

/-! ## What two objects say of each other -/

namespace Subject

/-- The metadata of the object. -/
def metadata (x : Subject) : ObjectMeta :=
  ObjectOf.objectMeta x.kind x.object

/-- The selector, if the object is a service. -/
def selector? (x : Subject) : Option (Dict String) :=
  ObjectOf.selector? x.kind x.object

/-- Whether the object is a pod with a specification. -/
def isSpecified (x : Subject) : Bool :=
  ObjectOf.isSpecified x.kind x.object

/-- Reference to the node of the object, by its `uid`. -/
def ref (x : Subject) : NodeRef :=
  .byUid x.kind.name x.uid

theorem ref_of_kind {x : Subject} {k : Kind} (h : x.kind = k) : x.ref = .byUid k.name x.uid := by
  unfold ref
  rw [h]

/-- The node that an object links is its own, `ref`. -/
theorem self_eq_ref (x : Subject) : Sync.self x.kind x.metadata = x.ref := by
  unfold Sync.self metadata
  rw [x.identified]
  rfl

/-- Labels and selector are dictionaries in order, as all are that are read from JSON. -/
structure HasOrderedMaps (x : Subject) : Prop where
  labels : ∀ labels, x.metadata.labels = some labels → labels.Ordered
  selector : ∀ selector, x.selector? = some selector → selector.Ordered

/-- Selection, by the objects alone: `s` is a service and `p` a pod of the same namespace, and each
entry of the selector, which is not empty, is among the labels of the pod. -/
structure Selects (s p : Subject) : Prop where
  service : s.kind = .service
  pod : p.kind = .pod
  together : ∃ ns, s.metadata.namespace_ = some ns ∧ p.metadata.namespace_ = some ns
  covered : ∃ selector labels, s.selector? = some selector ∧ p.metadata.labels = some labels
    ∧ selector.entries ≠ [] ∧ ∀ entry ∈ selector.entries, labels.find? entry.1 = some entry.2

/-- Object `x` makes the edge from `s` to `p`: it is the service, or it is the pod and has a
specification. -/
def Makes (x s p : Subject) : Prop :=
  s.Selects p ∧ (x = s ∨ (x = p ∧ p.isSpecified = true))

/-- The search of `x` comes to the link `l` for the node `n`. -/
def Sees (w : Writer) (x : Subject) (n : Node) (l : Link) : Prop :=
  ∃ q, ObjectOf.search? x.ref x.kind x.object = some q ∧ q.Links w n l

section Nodes

variable {w : Writer} {x s p : Subject} {n : Node} {l : Link}

/-- A node with the content of `x` holds under each key what is written for `x`, but for
`createdAt`. -/
theorem find?_of_content (h : n.content = x.content w) {key : String}
    (hkey : key ≠ Key.createdAt) :
    n.properties.find? key = (x.properties w ⟨0, 0⟩).find? key :=
  Node.find?_of_content (h.trans (x.content_node w ⟨0, 0⟩ 0).symm) hkey

/-- A node with the content of `x` holds what the metadata of `x` says, under each key that the kind
does not omit. -/
theorem find?_of_metadata (h : n.content = x.content w) {key : String} {value : Json}
    (hkey : key ∈ ObjectOf.metadataKeys)
    (hkept : (ObjectOf.omittedKeys x.kind).contains key = false)
    (hmem : (key, value) ∈ metadataFields w.id x.uid x.metadata) :
    n.properties.find? key = value.stored? := by
  have hlasting : ∀ key ∈ ObjectOf.metadataKeys, key ≠ Key.createdAt := by decide
  rw [find?_of_content h (hlasting key hkey)]
  refine (ObjectOf.stored_of_metadata value hkey hmem).trans ?_
  rw [hkept]
  rfl

theorem text?_of_metadata (h : n.content = x.content w) {key : String} {t : Option String}
    (hkey : key ∈ ObjectOf.metadataKeys)
    (hkept : (ObjectOf.omittedKeys x.kind).contains key = false)
    (hmem : (key, .ofText? t) ∈ metadataFields w.id x.uid x.metadata) : n.text? key = t := by
  unfold Node.text?
  rw [find?_of_metadata h hkey hkept hmem, Json.stored?_ofText?]
  cases t <;> rfl

/-- Services and pods omit no key. -/
theorem omittedKeys_of_isSide (hside : x.kind.isSide = true) (key : String) :
    (ObjectOf.omittedKeys x.kind).contains key = false := by
  cases hkind : x.kind with
  | event =>
      rw [hkind] at hside
      cases hside
  | _ => rfl

theorem text?_uid_of_content (h : n.content = x.content w) : n.text? Key.uid = some x.uid :=
  congrArg NodeKey.uid (key_of_content h)

theorem text?_labels_of_content (h : n.content = x.content w) (hside : x.kind.isSide = true) :
    n.text? "labels" = x.metadata.labels.map storedTextMap := by
  have hstored : n.properties.find? "labels" = (Json.ofTextMap? x.metadata.labels).stored? :=
    find?_of_metadata h (by decide) (omittedKeys_of_isSide hside _) (by simp [metadataFields])
  unfold Node.text?
  rw [hstored, Json.stored?_ofTextMap?]
  cases x.metadata.labels <;> rfl

theorem storedSelector?_of_content (h : n.content = x.content w) (hx : x.kind = .service)
    (hordered : x.HasOrderedMaps) :
    storedSelector? (n.properties.find? "selector") = x.selector? := by
  rw [find?_of_content h (by decide)]
  obtain ⟨⟨kind, raw, object, converts⟩, uid, identified, named⟩ := x
  cases hx
  exact ObjectOf.storedSelector?_fields hordered.selector

/-- Node `n` with the content of `x` is listed for the kind `k` and the namespace `ns` if and only
if these are the kind and the namespace of `x`. -/
theorem isListed_iff (h : n.content = x.content w) (hside : x.kind.isSide = true) {k : Kind}
    {ns : String} :
    n.IsListed w k.name ns ↔ x.kind = k ∧ x.metadata.namespace_ = some ns := by
  have hlabels := labels_of_content h
  have hwithin : n.text? Key.namespace_ = x.metadata.namespace_ :=
    text?_of_metadata h (by decide) (omittedKeys_of_isSide hside _) (by simp [metadataFields])
  constructor
  · rintro ⟨hlabel, hns, -, -⟩
    exact ⟨(Kind.name_injective ((Node.hasLabel_iff_of_labels_eq hlabels).mp hlabel)).symm,
      hwithin.symm.trans hns⟩
  · rintro ⟨rfl, hns⟩
    refine ⟨Node.hasLabel_of_labels_eq hlabels, hwithin.trans hns, ?_, ?_⟩ <;>
      exact text?_of_metadata h (by decide) (omittedKeys_of_isSide hside _)
        (by simp [metadataFields, Json.ofText?])

/-- Whether the selector `selects` the stored labels of a pod is a matter of the labels themselves:
it is not empty, and they have all its entries. -/
theorem selects_labels_iff (hordered : p.HasOrderedMaps) {selector : Dict String} :
    selects selector (p.metadata.labels.map storedTextMap) = true
      ↔ ∃ labels, p.metadata.labels = some labels ∧ selector.entries ≠ []
        ∧ ∀ entry ∈ selector.entries, labels.find? entry.1 = some entry.2 :=
  selects_map_storedTextMap_iff hordered.labels

/-- Only services and pods have a search. -/
theorem Sees.isSide (h : x.Sees w n l) : x.kind = .service ∨ x.kind = .pod := by
  obtain ⟨q, hq, -⟩ := h
  obtain ⟨⟨kind, raw, object, converts⟩, uid, identified, named⟩ := x
  cases kind with
  | service => exact .inl rfl
  | pod => exact .inr rfl
  | _ => cases hq

theorem sees_service_iff (hs : s.kind = .service) :
    s.Sees w n l ↔ ∃ selector ns uid, s.selector? = some selector
      ∧ s.metadata.namespace_ = some ns ∧ n.IsListed w Kind.pod.name ns
      ∧ n.text? Key.uid = some uid ∧ selects selector (n.text? "labels") = true
      ∧ l = ⟨s.ref, .selects, .byUid Kind.pod.name uid⟩ := by
  obtain ⟨⟨kind, raw, object, converts⟩, uid, identified, named⟩ := s
  cases hs
  exact ServiceObject.search?_links_iff

theorem sees_pod_iff (hp : p.kind = .pod) :
    p.Sees w n l ↔ ∃ ns selector uid, p.isSpecified = true
      ∧ p.metadata.namespace_ = some ns ∧ n.IsListed w Kind.service.name ns
      ∧ storedSelector? (n.properties.find? "selector") = some selector
      ∧ n.text? Key.uid = some uid
      ∧ selects selector (p.metadata.labels.map storedTextMap) = true
      ∧ l = ⟨.byUid Kind.service.name uid, .selects, p.ref⟩ := by
  obtain ⟨⟨kind, raw, object, converts⟩, uid, identified, named⟩ := p
  cases hp
  exact PodObject.search?_links_iff

/-- A service sees the pods that it selects, and the link is the `selects` from its node to that of
the pod. -/
theorem sees_of_service (hs : s.kind = .service) (hn : n.content = p.content w)
    (hside : p.kind.isSide = true) (hordered : p.HasOrderedMaps) :
    s.Sees w n l ↔ s.Selects p ∧ l = ⟨s.ref, .selects, p.ref⟩ := by
  rw [sees_service_iff hs, text?_labels_of_content hn hside, text?_uid_of_content hn]
  constructor
  · rintro ⟨selector, ns, uid, hselector, hns, hlisted, huid, hselects, rfl⟩
    obtain ⟨hpod, htogether⟩ := (isListed_iff hn hside).mp hlisted
    obtain ⟨labels, hlabels, hcovered⟩ := (selects_labels_iff hordered).mp hselects
    refine ⟨⟨hs, hpod, ⟨ns, hns, htogether⟩, selector, labels, hselector, hlabels, hcovered⟩, ?_⟩
    rw [ref_of_kind hpod, Option.some.inj huid]
  · rintro ⟨⟨-, hpod, ⟨ns, hns, htogether⟩, selector, labels, hselector, hlabels, hcovered⟩, rfl⟩
    refine ⟨selector, ns, p.uid, hselector, hns, (isListed_iff hn hside).mpr ⟨hpod, htogether⟩, rfl,
      (selects_labels_iff hordered).mpr ⟨labels, hlabels, hcovered⟩, ?_⟩
    rw [ref_of_kind hpod]

/-- A pod sees the services that select it, if it has a specification, and the link is the `selects`
from the node of the service to its own. -/
theorem sees_of_pod (hp : p.kind = .pod) (hn : n.content = s.content w)
    (hside : s.kind.isSide = true) (hordered : s.HasOrderedMaps) (hpordered : p.HasOrderedMaps) :
    p.Sees w n l
      ↔ s.Selects p ∧ p.isSpecified = true ∧ l = ⟨s.ref, .selects, p.ref⟩ := by
  rw [sees_pod_iff hp, text?_uid_of_content hn]
  constructor
  · rintro ⟨ns, selector, uid, hspec, hns, hlisted, hselector, huid, hselects, rfl⟩
    obtain ⟨hservice, htogether⟩ := (isListed_iff hn hside).mp hlisted
    rw [storedSelector?_of_content hn hservice hordered] at hselector
    obtain ⟨labels, hlabels, hcovered⟩ := (selects_labels_iff hpordered).mp hselects
    refine ⟨⟨hservice, hp, ⟨ns, htogether, hns⟩, selector, labels, hselector, hlabels, hcovered⟩,
      hspec, ?_⟩
    rw [ref_of_kind hservice, Option.some.inj huid]
  · rintro ⟨⟨hservice, -, ⟨ns, htogether, hns⟩, selector, labels, hselector, hlabels, hcovered⟩,
      hspec, rfl⟩
    refine ⟨ns, selector, s.uid, hspec, hns, (isListed_iff hn hside).mpr ⟨hservice, htogether⟩, ?_,
      rfl, (selects_labels_iff hpordered).mpr ⟨labels, hlabels, hcovered⟩, ?_⟩
    · rw [storedSelector?_of_content hn hservice hordered, hselector]
    · rw [ref_of_kind hservice]

end Nodes

/-! ## Selections that an object calls for -/

/-- On the two sides of `selects`, the nodes are just those of `objects`. -/
structure ShowsSides (w : Writer) (objects : List Subject) (nodes : List Node) : Prop where
  known : ∀ n ∈ nodes, ∀ k : Kind, k.isSide = true → n.hasLabel k.name = true →
    ∃ x ∈ objects, x.kind = k ∧ n.content = x.content w
  full : ∀ x ∈ objects, x.kind.isSide = true → ∃ n ∈ nodes, n.content = x.content w

section Relations

variable {w : Writer} {objects : List Subject} {nodes : List Node} {x : Subject} {l : Link}

/-- The `selects` among the relations of an object come from its search. -/
theorem mem_relations_iff_sees (hl : l.rel = .selects) :
    l ∈ ObjectOf.relations w x.kind x.object nodes ↔ ∃ n ∈ nodes, x.Sees w n l := by
  have hself : Sync.self x.kind (ObjectOf.objectMeta x.kind x.object) = x.ref := x.self_eq_ref
  rw [ObjectOf.mem_relations_iff, hself]
  exact or_iff_right fun hdirect => (ObjectOf.isDirect_links _ _ l hdirect).rel_ne hl

/-- The links that `x` sees among nodes that `ShowsSides` are the `selects` that `x` makes. -/
theorem sees_iff_makes (hnodes : ShowsSides w objects nodes)
    (hordered : ∀ y ∈ objects, y.HasOrderedMaps) (hx : x ∈ objects) :
    (∃ n ∈ nodes, x.Sees w n l)
      ↔ ∃ s ∈ objects, ∃ p ∈ objects, x.Makes s p ∧ l = ⟨s.ref, .selects, p.ref⟩ := by
  constructor
  · rintro ⟨n, hn, hsees⟩
    rcases hsees.isSide with hs | hp
    · obtain ⟨-, ns, -, -, -, hlisted, -⟩ := (sees_service_iff hs).mp hsees
      obtain ⟨p, hp, hpod, hcontent⟩ := hnodes.known n hn .pod rfl hlisted.labelled
      obtain ⟨hselects, rfl⟩ :=
        (sees_of_service hs hcontent (by rw [hpod]; rfl) (hordered p hp)).mp hsees
      exact ⟨x, hx, p, hp, ⟨hselects, .inl rfl⟩, rfl⟩
    · obtain ⟨ns, -, -, -, -, hlisted, -⟩ := (sees_pod_iff hp).mp hsees
      obtain ⟨s, hs, hservice, hcontent⟩ := hnodes.known n hn .service rfl hlisted.labelled
      obtain ⟨hselects, hspec, rfl⟩ :=
        (sees_of_pod hp hcontent (by rw [hservice]; rfl) (hordered s hs) (hordered x hx)).mp hsees
      exact ⟨s, hs, x, hx, ⟨hselects, .inr ⟨rfl, hspec⟩⟩, rfl⟩
  · rintro ⟨s, hs, p, hp, ⟨hselects, rfl | ⟨rfl, hspec⟩⟩, rfl⟩
    · have hside : p.kind.isSide = true := by rw [hselects.pod]; rfl
      obtain ⟨n, hn, hcontent⟩ := hnodes.full p hp hside
      exact ⟨n, hn, (sees_of_service hselects.service hcontent hside (hordered p hp)).mpr
        ⟨hselects, rfl⟩⟩
    · have hside : s.kind.isSide = true := by rw [hselects.service]; rfl
      obtain ⟨n, hn, hcontent⟩ := hnodes.full s hs hside
      exact ⟨n, hn, (sees_of_pod hselects.pod hcontent hside (hordered s hs) (hordered x hx)).mpr
        ⟨hselects, hspec, rfl⟩⟩

end Relations

end Subject
end ClusterGraph
