import ClusterGraph.Proofs.Projection.Joining
import ClusterGraph.Proofs.Projection.Selecting

/-!
# ClusterGraph.Proofs.Projection.Meeting

**A claim and its volume meet, whichever of them comes last and whatever comes between.**

Both know of each other, each in its own way: the claim says the name of the volume, and the volume
says the namespace and the name of the claim. So the one that comes last finds the other, provided
that the other's node still says what its last version said. That is the invariant
(`Graph.Follows`): a node is only written for an object of its own key, so what it says is the last
version of its object (`Subject.IsLast`), and a relationship once made outlasts all that is
written.
-/

namespace ClusterGraph

/-- The node of a claim holds its `namespacedName`, by which volumes find it. -/
theorem ObjectOf.stored_namespacedName {id : Identity} {now : Instant} {uid ns name : String}
    {o : ObjectOf .persistentVolumeClaim} (hns : (objectMeta _ o).namespace_ = some ns)
    (hname : (objectMeta _ o).name = some name) :
    (storedProperties (fields id now uid _ o)).find? Key.namespacedName
      = some (.text (ns ++ "/" ++ name)) := by
  have hfield : (Key.namespacedName, Json.text (ns ++ "/" ++ name))
      ∈ metadataFields id uid (objectMeta _ o) := by
    refine List.mem_append_right _ ?_
    unfold namespacedField
    rw [hns, hname]
    exact List.mem_singleton_self _
  have hown : ∀ f ∈ ownFields now .persistentVolumeClaim o, f.1 ≠ Key.namespacedName := by
    simp only [ownFields, PersistentVolumeClaimObject.fields, List.forall_mem_append,
      forall_mem_fieldsOf]
    simp [Key.namespacedName]
  refine stored_of_fields rfl (List.mem_append_left _ hfield) fun f hf hkey => ?_
  rcases List.mem_append.mp hf with hf | hf
  · exact congrArg Prod.snd
      (List.inj_on_of_nodup_map (nodup_metadataFields _ _ _) hf hfield hkey)
  · exact absurd hkey (hown f hf)

/-! ## Last versions -/

namespace Subject

/-- Object `x` is the last one with its key in `objects`. -/
def IsLast (objects : List Subject) (x : Subject) : Prop :=
  ∃ before after, objects = before ++ x :: after ∧ ∀ y ∈ after, y.key ≠ x.key

/-- When `x` comes last, the last versions are `x` and those from before that have another key. -/
theorem isLast_concat {objects : List Subject} {x y : Subject} :
    y.IsLast (objects ++ [x]) ↔ y = x ∨ y.IsLast objects ∧ x.key ≠ y.key := by
  constructor
  · rintro ⟨before, after, hsplit, hafter⟩
    rcases after.eq_nil_or_concat' with rfl | ⟨after, z, rfl⟩
    · exact .inl (List.cons.inj (List.append_inj' hsplit rfl).2).1.symm
    · rw [← List.cons_append, ← List.append_assoc] at hsplit
      obtain ⟨hobjects, hlast⟩ := List.append_inj' hsplit rfl
      cases (List.cons.inj hlast).1
      exact .inr ⟨⟨before, after, hobjects, fun z hz => hafter z (List.mem_append_left _ hz)⟩,
        hafter x (List.mem_append_right _ (List.mem_singleton_self x))⟩
  · rintro (rfl | ⟨⟨before, after, rfl, hafter⟩, hne⟩)
    · exact ⟨objects, [], rfl, fun _ hz => absurd hz List.not_mem_nil⟩
    · refine ⟨before, after ++ [x], by simp, fun z hz => ?_⟩
      rcases List.mem_append.mp hz with hz | hz
      · exact hafter z hz
      · rw [List.mem_singleton.mp hz]
        exact hne

/-! ## Claims and volumes -/

/-- The volume that a claim names. -/
def volumeName? (x : Subject) : Option String :=
  match x.kind, x.object with
  | .persistentVolumeClaim, o => (PersistentVolumeClaimObject.spec o).bind (·.volume)
  | _, _ => none

/-- The claim that a volume is bound to. -/
def claimName? (x : Subject) : Option ClaimName :=
  match x.kind, x.object with
  | .persistentVolume, o => (PersistentVolumeObject.spec o).bind (·.claim)
  | _, _ => none

/-- Claim `c` and volume `v` name each other. -/
structure Binds (c v : Subject) : Prop where
  claim : c.kind = .persistentVolumeClaim
  volume : v.kind = .persistentVolume
  forward : ∃ name, c.volumeName? = some name ∧ v.metadata.name = some name
  back : ∃ ns name, v.claimName? = some ⟨ns, name⟩ ∧ c.metadata.namespace_ = some ns
    ∧ c.metadata.name = some name

section Ends

variable {w : Writer} {x c v : Subject} {n : Node} {nodes : List Node} {name ns : String}

/-- The links of an object are part of its relations. -/
theorem mem_relations_of_links {l : Link} (h : l ∈ ObjectOf.links w x.ref x.kind x.object) :
    l ∈ ObjectOf.relations w x.kind x.object nodes := by
  have hself : Sync.self x.kind (ObjectOf.objectMeta x.kind x.object) = x.ref := x.self_eq_ref
  refine ObjectOf.mem_relations_iff.mpr (.inl ?_)
  rwa [hself]

/-- The relations of a claim contain a `uses` link to the volume that it names. -/
theorem link_of_volumeName? (hx : x.kind = .persistentVolumeClaim)
    (hname : x.volumeName? = some name) :
    ⟨x.ref, .uses, w.named Kind.persistentVolume.name name⟩
      ∈ ObjectOf.relations w x.kind x.object nodes := by
  refine mem_relations_of_links ?_
  obtain ⟨⟨kind, raw, object, converts⟩, uid, identified, named⟩ := x
  cases hx
  exact List.mem_append_right _ (List.mem_map.mpr ⟨name, Option.mem_toList.mpr hname, rfl⟩)

/-- The relations of a volume contain a `uses` link from the claim that it is bound to. -/
theorem link_of_claimName? (hx : x.kind = .persistentVolume)
    (hname : x.claimName? = some ⟨ns, name⟩) :
    ⟨w.namespaced Kind.persistentVolumeClaim.name ns name, .uses, x.ref⟩
      ∈ ObjectOf.relations w x.kind x.object nodes := by
  refine mem_relations_of_links ?_
  obtain ⟨⟨kind, raw, object, converts⟩, uid, identified, named⟩ := x
  cases hx
  exact List.mem_append_right _ (List.mem_map.mpr ⟨⟨ns, name⟩, Option.mem_toList.mpr hname, rfl⟩)

/-- The node of a volume is found by its name. -/
theorem isNamed_of_content (h : n.content = v.content w) (hv : v.kind = .persistentVolume)
    (hname : v.metadata.name = some name) : n.IsNamed w Kind.persistentVolume.name name where
  labelled := Node.hasLabel_of_labels_eq (hv ▸ labels_of_content h)
  named := by
    rw [← hname]
    exact text?_of_metadata h (by decide) (by rw [hv]; decide) (by simp [metadataFields])
  within := text?_of_metadata h (by decide) (by rw [hv]; decide)
    (by simp [metadataFields, Json.ofText?])

/-- The node of a claim is found by its namespace and name. -/
theorem isNamedIn_of_content (h : n.content = c.content w)
    (hc : c.kind = .persistentVolumeClaim) (hns : c.metadata.namespace_ = some ns)
    (hname : c.metadata.name = some name) :
    n.IsNamedIn w Kind.persistentVolumeClaim.name ns name where
  labelled := Node.hasLabel_of_labels_eq (hc ▸ labels_of_content h)
  named := by
    have hfound : n.properties.find? Key.namespacedName
        = (c.properties w ⟨0, 0⟩).find? Key.namespacedName := find?_of_content h (by decide)
    unfold Node.text?
    rw [hfound]
    obtain ⟨⟨kind, raw, object, converts⟩, uid, identified, named⟩ := c
    cases hc
    exact congrArg (Option.bind · PropertyValue.text?)
      (ObjectOf.stored_namespacedName hns hname)
  within := text?_of_metadata h (by decide) (by rw [hc]; decide)
    (by simp [metadataFields, Json.ofText?])

end Ends

end Subject

/-! ## What a graph holds of the objects that appeared -/

/-- Invariant of a graph after `objects` were followed: the last version of each has its node
(`latest`), and if the last versions of a claim and a volume name each other, there is an edge
between their nodes (`bound`). -/
structure Graph.Follows (w : Writer) (objects : List Subject) (g : Graph) : Prop where
  single : g.SingleLabelled
  keyed : ∀ label, g.KeyedAt label
  nodup : g.edges.Nodup
  latest : ∀ x : Subject, x.IsLast objects → ∃ n ∈ g.nodes, n.content = x.content w
  bound : ∀ c v : Subject, c.IsLast objects → v.IsLast objects → c.Binds v →
    ∃ a ∈ g.nodes, ∃ b ∈ g.nodes, a.key = c.key ∧ b.key = v.key ∧ ⟨a.id, .uses, b.id⟩ ∈ g.edges

section Follow

variable {w : Writer} {g : Graph} {objects : List Subject} {x y c v : Subject} {n : Node}

/-- Following `x` leaves every node with another key as it is. -/
theorem Graph.mem_follow_of_key_ne (hkeyed : ∀ label, g.KeyedAt label) (now : Instant)
    (hn : n ∈ g.nodes) (hkey : x.key ≠ n.key) : n ∈ (x.follow w now g).nodes := by
  refine (exists_mem_upsert hn).resolve_right fun ⟨htarget, _⟩ => hkey ?_
  obtain ⟨hlabel, huid⟩ := Node.isUpsertTarget_uid.mp htarget
  exact ((hkeyed _).key_eq hn hlabel huid).symm

/-- After `x` was followed, there is a node with its content. -/
theorem Graph.exists_mem_follow (hsingle : g.SingleLabelled) (now : Instant) (x : Subject) :
    ∃ n ∈ (x.follow w now g).nodes, n.content = x.content w := by
  obtain ⟨n, hn, -, hlabels, hproperties⟩ :=
    exists_upsertId hsingle x.kind.name x.uid (x.properties w now)
  exact ⟨n, hn, Subject.content_of_written hlabels hproperties⟩

theorem Graph.mem_edges_of_link {l : Link} {a b : Node} (now : Instant)
    (hl : l ∈ ObjectOf.relations w x.kind x.object (x.follow w now g).nodes)
    (ha : a ∈ (x.follow w now g).nodes) (hb : b ∈ (x.follow w now g).nodes)
    (hjoins : l.Joins a l.rel b) : ⟨a.id, l.rel, b.id⟩ ∈ (x.follow w now g).edges :=
  mem_edges_follow.mpr (.inr ⟨l, hl, Link.mem_edges_iff.mpr ⟨a, ha, b, hb, rfl, rfl, hjoins⟩⟩)

theorem Subject.isMeantBy_ref (h : n.content = x.content w) : n.isMeantBy x.ref = true :=
  Node.isMeantBy_byUid_iff.mpr ⟨Node.hasLabel_of_labels_eq (labels_of_content h),
    text?_uid_of_content h⟩

/-- When the claim or the volume of a pair comes last, it finds the node of the other and makes the
edge. -/
theorem Graph.exists_edge_of_binds (now : Instant)
    (hc : c.IsLast (objects ++ [x])) (hv : v.IsLast (objects ++ [x])) (hbinds : c.Binds v)
    (hlatest : ∀ y : Subject, y.IsLast (objects ++ [x]) →
      ∃ n ∈ (x.follow w now g).nodes, n.content = y.content w)
    (hx : x = c ∨ x = v) :
    ∃ a ∈ (x.follow w now g).nodes, ∃ b ∈ (x.follow w now g).nodes,
      a.key = c.key ∧ b.key = v.key ∧ ⟨a.id, .uses, b.id⟩ ∈ (x.follow w now g).edges := by
  obtain ⟨a, ha, hac⟩ := hlatest c hc
  obtain ⟨b, hb, hbv⟩ := hlatest v hv
  refine ⟨a, ha, b, hb, Subject.key_of_content hac, Subject.key_of_content hbv, ?_⟩
  have hkey : isIdentifier Key.uid = true ∧ isIdentifier Key.name = true
      ∧ isIdentifier Key.namespacedName = true := by
    decide
  rcases hx with rfl | rfl
  · obtain ⟨name, hname, hvolume⟩ := hbinds.forward
    refine mem_edges_of_link now (Subject.link_of_volumeName? hbinds.claim hname) ha hb
      ⟨?_, rfl, Subject.isMeantBy_ref hac, Node.isMeantBy_named_iff.mpr
        (Subject.isNamed_of_content hbv hbinds.volume hvolume)⟩
    simp [Link.isValid, Subject.ref, NodeRef.byUid, Writer.named, NodeRef.byName, hkey,
      Kind.isIdentifier_name]
  · obtain ⟨ns, name, hname, hns, hclaim⟩ := hbinds.back
    refine mem_edges_of_link now (Subject.link_of_claimName? hbinds.volume hname) ha hb
      ⟨?_, rfl, Node.isMeantBy_namespaced_iff.mpr
        (Subject.isNamedIn_of_content hac hbinds.claim hns hclaim), Subject.isMeantBy_ref hbv⟩
    simp [Link.isValid, Subject.ref, NodeRef.byUid, Writer.namespaced, NodeRef.byNamespacedName,
      hkey, Kind.isIdentifier_name]

/-- Step lemma of `Follows`: following another object keeps it. -/
theorem Graph.Follows.follow (h : g.Follows w objects) (now : Instant) (x : Subject) :
    (x.follow w now g).Follows w (objects ++ [x]) := by
  have hlatest : ∀ y : Subject, y.IsLast (objects ++ [x]) →
      ∃ n ∈ (x.follow w now g).nodes, n.content = y.content w := by
    intro y hy
    rcases Subject.isLast_concat.mp hy with rfl | ⟨hy, hne⟩
    · exact exists_mem_follow h.single now _
    · obtain ⟨n, hn, hcontent⟩ := h.latest y hy
      rw [← Subject.key_of_content hcontent] at hne
      exact ⟨n, mem_follow_of_key_ne h.keyed now hn hne, hcontent⟩
  constructor
  case latest => exact hlatest
  case single =>
    intro n hn
    exact (mem_upsert_cases h.single hn).elim (h.single n) fun hwritten => ⟨_, hwritten.1⟩
  case keyed =>
    intro label
    exact ((h.keyed label).upsert (ObjectOf.storedUid w.id now x.uid x.kind x.object)).congr
      nodes_follow.symm
  case nodup =>
    obtain ⟨added, hedges, hnodup, hadded⟩ := edges_follow_eq_append w now x.object x.uid g
    rw [Subject.follow, hedges]
    refine List.nodup_append.mpr ⟨h.nodup, hnodup, fun e he f hf heq => ?_⟩
    exact ((hadded f).mp hf).1 (heq ▸ he)
  case bound =>
    intro c v hc hv hbinds
    by_cases hx : x = c ∨ x = v
    · exact exists_edge_of_binds now hc hv hbinds hlatest hx
    · obtain ⟨hxc, hxv⟩ := not_or.mp hx
      obtain ⟨hc, hcne⟩ := (Subject.isLast_concat.mp hc).resolve_left (Ne.symm hxc)
      obtain ⟨hv, hvne⟩ := (Subject.isLast_concat.mp hv).resolve_left (Ne.symm hxv)
      obtain ⟨a, ha, b, hb, hac, hbv, hedge⟩ := h.bound c v hc hv hbinds
      exact ⟨a, mem_follow_of_key_ne h.keyed now ha (hac ▸ hcne), b,
        mem_follow_of_key_ne h.keyed now hb (hbv ▸ hvne), hac, hbv,
        mem_edges_follow.mpr (.inl hedge)⟩

theorem Graph.follows_empty (w : Writer) : Graph.empty.Follows w [] where
  single _ hn := absurd hn List.not_mem_nil
  keyed _ := keyedAt_of_unlabelled fun _ hn => absurd hn List.not_mem_nil
  nodup := List.nodup_nil
  latest _ := fun ⟨_, _, hsplit, _⟩ => by simp at hsplit
  bound _ _ := fun ⟨_, _, hsplit, _⟩ => by simp at hsplit

end Follow

/-! ## Creations in order -/

namespace Creation

variable {w : Writer}

/-- Run lemma of `Follows`: it holds after any creations. -/
theorem follows_performAll (creations : List Creation) :
    (performAll w creations MemoryStore.empty).graph.Follows w (subjects creations) :=
  induction (P := fun objects g => g.Follows w objects) (Graph.follows_empty w)
    (fun _ _ x now h => h.follow now x) creations

/-- If the last versions of a claim and a volume name each other, then after any creations, in any
order and with anything between them, each has one node, and the edge `uses` from the claim to the
volume is there exactly once. -/
theorem claim_uses_volume (w : Writer) (creations : List Creation) {c v : Subject}
    (hc : c.IsLast (subjects creations)) (hv : v.IsLast (subjects creations))
    (hbinds : c.Binds v) :
    let g := (performAll w creations MemoryStore.empty).graph
    ∃ a b, (∀ id, g.Stands c id ↔ id = a) ∧ (∀ id, g.Stands v id ↔ id = b)
      ∧ g.edges.count ⟨a, .uses, b⟩ = 1 := by
  intro g
  have hg : g.Follows w (subjects creations) := follows_performAll creations
  obtain ⟨a, ha, b, hb, hac, hbv, hedge⟩ := hg.bound c v hc hv hbinds
  have hstands : ∀ (x : Subject), ∀ n ∈ g.nodes, n.key = x.key →
      ∀ id, g.Stands x id ↔ id = n.id := by
    intro x n hn hkey id
    constructor
    · rintro ⟨m, hm, rfl, hmkey⟩
      rw [(hg.keyed x.kind.name).eq_of_key hm hn hmkey hkey]
    · rintro rfl
      exact ⟨n, hn, rfl, hkey⟩
  exact ⟨a.id, b.id, hstands c a ha hac, hstands v b hb hbv,
    List.count_eq_one_of_mem hg.nodup hedge⟩

/-- A claim that names `volume`, or none yet. -/
def shopClaim (volume : Option String) : Subject where
  kind := .persistentVolumeClaim
  raw := .typed .persistentVolumeClaim
    ⟨⟨some "c", some "data", some "shop", none, none, none, []⟩, some ⟨none, volume, none, none⟩, none⟩
  object := ⟨⟨some "c", some "data", some "shop", none, none, none, []⟩,
    some ⟨none, volume, none, none⟩, none⟩
  converts := rfl
  uid := "c"
  identified := rfl
  named := by decide

/-- A volume that is bound to the claim. -/
def shopVolume : Subject where
  kind := .persistentVolume
  raw := .typed .persistentVolume ⟨⟨some "v", some "disk", none, none, none, none, []⟩,
    some ⟨none, none, none, none, some ⟨"shop", "data"⟩⟩, none⟩
  object := ⟨⟨some "v", some "disk", none, none, none, none, []⟩,
    some ⟨none, none, none, none, some ⟨"shop", "data"⟩⟩, none⟩
  converts := rfl
  uid := "v"
  identified := rfl
  named := by decide

/-- Creations in which the claim comes first without its volume and last with it, and the volume
comes twice in between. -/
def claimAround : List Creation :=
  [⟨⟨0, 0⟩, .persistentVolumeClaim, (shopClaim none).raw⟩,
    ⟨⟨1, 0⟩, .persistentVolume, shopVolume.raw⟩, ⟨⟨2, 0⟩, .persistentVolume, shopVolume.raw⟩,
    ⟨⟨3, 0⟩, .persistentVolumeClaim, (shopClaim (some "disk")).raw⟩]

/-- Instance of `claim_uses_volume`: three of the creations make the edge, and it is there once. -/
theorem claim_uses_volume_claimAround :
    (performAll Converted.shopWriter claimAround MemoryStore.empty).graph.edges.count
      ⟨0, .uses, 1⟩ = 1 := by
  have hbinds : (shopClaim (some "disk")).Binds shopVolume :=
    ⟨rfl, rfl, ⟨"disk", rfl, rfl⟩, "shop", "data", rfl, rfl, rfl⟩
  have hclaim : (shopClaim (some "disk")).IsLast (subjects claimAround) :=
    ⟨[shopClaim none, shopVolume, shopVolume], [], rfl, fun _ hy => absurd hy List.not_mem_nil⟩
  have hvolume : shopVolume.IsLast (subjects claimAround) := by
    refine ⟨[shopClaim none, shopVolume], [shopClaim (some "disk")], rfl, fun y hy => ?_⟩
    rw [List.mem_singleton.mp hy]
    decide
  obtain ⟨a, b, ha, hb, hcount⟩ :=
    claim_uses_volume Converted.shopWriter claimAround hclaim hvolume hbinds
  have hclaimed : 0 = a := (ha 0).mp (by unfold Graph.Stands; decide +kernel)
  have hvolumed : 1 = b := (hb 1).mp (by unfold Graph.Stands; decide +kernel)
  subst hclaimed hvolumed
  exact hcount

end Creation
end ClusterGraph
