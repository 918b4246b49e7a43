import ClusterGraph.Proofs.Graph.Numbering
import ClusterGraph.Proofs.Projection.Anchoring
import ClusterGraph.Proofs.Projection.Relating

/-!
# ClusterGraph.Proofs.Projection.Converging

**Two rounds settle a graph: whatever the order in which objects are followed, after each was
followed twice the graph is the same, and following any of them again changes nothing.**

One round is not enough. A relationship is made when the later of its ends is written, but only
one of the two objects may know of it, and then it has to be the later one. After the first round
all nodes are there; from then on an object makes all relationships that it calls for, and no
others can be called for, since the nodes say the same as in the end.

What makes this work is that the relationships of an object depend on what the nodes say and on
nothing else (`Subject.Calls.mono`): neither on numbers nor on the time of recording. So what is in
the graph was called for among the nodes of the end already (`Graph.Shows.called`), and the second
round makes the rest (`Graph.Settled`).

An object that is read but comes without an identity has no node. It is passed over, so what is
said of the objects with one (`Subject`) holds of all that are read (`Converted`).
-/

namespace ClusterGraph

/-! ## What links depend on -/

/-- The reference does not ask for `createdAt`, the only property that depends on when an object is
followed. -/
def NodeRef.IsLasting (ref : NodeRef) : Prop :=
  ref.key ≠ Key.createdAt

/-- A reference by `uid`, name or namespaced name `IsLasting`. -/
theorem NodeRef.IsName.isLasting {ref : NodeRef} (h : ref.IsName) : ref.IsLasting := by
  have hkeys : ∀ key ∈ [Key.uid, Key.name, Key.namespacedName], key ≠ Key.createdAt := by decide
  exact hkeys ref.key h

theorem NodeRef.isLasting_byUid (label uid : String) : (byUid label uid).IsLasting :=
  (isName_byUid label uid).isLasting

/-- Both ends of the link are lasting. -/
def Link.IsLasting (l : Link) : Prop :=
  l.source.IsLasting ∧ l.target.IsLasting

namespace ObjectOf

variable {w : Writer} {self : NodeRef}

/-- No link of `ObjectOf.links` refers to anything by `createdAt`. -/
theorem isLasting_links (hself : self.IsLasting) (k : Kind) (o : ObjectOf k) :
    ∀ l ∈ links w self k o, l.IsLasting := by
  intro l hl
  cases isDirect_links k o l hl with
  | leads _ hother => exact ⟨hself, hother.isLasting⟩
  | comes _ hother => exact ⟨hother.isLasting, hself⟩

/-- For properties that agree but for `createdAt`, a search of an object gives the same link, and a
lasting one. -/
theorem search?_lasting (hself : self.IsLasting) {k : Kind} {o : ObjectOf k} {s : Search}
    (h : search? self k o = some s) {p q : Properties}
    (hsame : ∀ key, key ≠ Key.createdAt → p.find? key = q.find? key) :
    s.link? p = s.link? q ∧ ∀ l, s.link? p = some l → l.IsLasting := by
  have huid : storedText? p Key.uid = storedText? q Key.uid := by
    unfold storedText?
    rw [hsame _ (by decide)]
  cases k with
  | pod =>
      have h : PodObject.search? self o = some s := h
      unfold PodObject.search? at h
      split at h
      · cases h
        refine ⟨?_, fun l hl => ?_⟩
        · simp only [hsame "selector" (by decide), huid]
        · obtain ⟨selector, -, hl⟩ := Option.bind_eq_some_iff.mp hl
          obtain ⟨uid, -, hl⟩ := Option.bind_eq_some_iff.mp hl
          obtain ⟨-, hl⟩ := Option.ite_none_right_eq_some.mp hl
          cases hl
          exact ⟨NodeRef.isLasting_byUid _ _, hself⟩
      · cases h
  | service =>
      have h : ServiceObject.search? self o = some s := h
      unfold ServiceObject.search? at h
      split at h
      · cases h
        have hlabels : storedText? p "labels" = storedText? q "labels" := by
          unfold storedText?
          rw [hsame _ (by decide)]
        refine ⟨?_, fun l hl => ?_⟩
        · simp only [hlabels, huid]
        · obtain ⟨uid, -, hl⟩ := Option.bind_eq_some_iff.mp hl
          obtain ⟨-, hl⟩ := Option.ite_none_right_eq_some.mp hl
          cases hl
          exact ⟨hself, NodeRef.isLasting_byUid _ _⟩
      · cases h
  | _ => cases h

end ObjectOf

theorem Search.isCandidate_of_content (w : Writer) (s : Search) {n m : Node}
    (h : n.content = m.content) : s.isCandidate w n = s.isCandidate w m := by
  unfold isCandidate Node.hasLabel
  rw [Node.labels_of_content h, Node.holdsText_of_content h (by decide),
    Node.holdsText_of_content h (by decide), Node.holdsText_of_content h (by decide)]

section Relations

variable {w : Writer} {k : Kind} {o : ObjectOf k} {nodes more : List Node}

theorem ObjectOf.isLasting_relations :
    ∀ l ∈ relations w k o nodes, l.IsLasting := by
  have hself : (Sync.self k (objectMeta k o)).IsLasting := NodeRef.isLasting_byUid _ _
  unfold relations
  rw [List.forall_mem_append]
  refine ⟨isLasting_links hself k o, ?_⟩
  cases hsearch : search? (Sync.self k (objectMeta k o)) k o with
  | none => exact fun _ hl => absurd hl List.not_mem_nil
  | some s =>
      intro l hl
      obtain ⟨n, -, -, hl⟩ := Search.mem_found.mp hl
      exact (search?_lasting hself hsearch fun _ _ => rfl).2 l hl

/-- If the contents of `nodes` are all among those of `more`, the relations among `nodes` are all
among those of `more`. -/
theorem ObjectOf.relations_mono (h : ∀ n ∈ nodes, ∃ m ∈ more, m.content = n.content) :
    ∀ l ∈ relations w k o nodes, l ∈ relations w k o more := by
  intro l hl
  unfold relations at hl ⊢
  rcases List.mem_append.mp hl with hl | hl
  · exact List.mem_append_left _ hl
  · refine List.mem_append_right _ ?_
    cases hsearch : search? (Sync.self k (objectMeta k o)) k o with
    | none =>
        rw [hsearch] at hl
        cases hl
    | some s =>
        rw [hsearch] at hl
        obtain ⟨n, hn, hcandidate, hl⟩ := Search.mem_found.mp hl
        obtain ⟨m, hm, hcontent⟩ := h n hn
        refine Search.mem_found.mpr ⟨m, hm, ?_, ?_⟩
        · rw [s.isCandidate_of_content w hcontent, hcandidate]
        · rw [← hl]
          exact (search?_lasting (NodeRef.isLasting_byUid _ _) hsearch
            fun key hkey => Node.find?_of_content hcontent hkey).1

end Relations

/-! ## Objects that can be followed -/

/-- An object of `kind` as it is delivered (`raw`), together with what it is read as. -/
structure Converted where
  kind : Kind
  raw : RawObject
  object : ObjectOf kind
  converts : raw.convert kind kind.name = .ok object

/-- A `Converted` object that has a `uid`, so that a node is written for it. -/
structure Subject extends Converted where
  uid : String
  identified : (ObjectOf.objectMeta kind object).uid = some uid
  named : uid ≠ ""

namespace Converted

/-- The kind of the object and its `uid`, if it has one. Two deliveries with the same identity are
versions of one object. -/
def identity (x : Converted) : Kind × Option String :=
  (x.kind, (ObjectOf.objectMeta x.kind x.object).uid)

/-- Follow the object at `now`, in a store in memory. -/
def deliver (w : Writer) (now : Instant) (x : Converted) (s : MemoryStore) : MemoryStore :=
  Sync.created w now x.kind x.raw s

/-- Follow the objects of `deliveries` one after the other, each at its time. -/
def deliverAll (w : Writer) (deliveries : List (Instant × Converted)) (s : MemoryStore) :
    MemoryStore :=
  deliveries.foldl (fun s d => d.2.deliver w d.1 s) s

/-- The `Subject` of the object; `none` if it has no `uid`, or an empty one. -/
def subject? (x : Converted) : Option Subject :=
  match identified : (ObjectOf.objectMeta x.kind x.object).uid with
  | some uid => if named : uid ≠ "" then some { x with uid, identified, named } else none
  | none => none

variable {w : Writer} {now : Instant} {x : Converted} {y : Subject} {s : MemoryStore}

theorem toConverted_of_subject? (h : x.subject? = some y) : y.toConverted = x := by
  unfold subject? at h
  split at h
  · obtain ⟨_, heq⟩ := Option.dite_none_right_eq_some.mp h
    rw [← Option.some.inj heq]
  · cases h

theorem uid_of_unidentified (h : x.subject? = none) :
    ∀ uid, (ObjectOf.objectMeta x.kind x.object).uid = some uid → uid = "" := by
  intro uid huid
  by_contra hnamed
  unfold subject? at h
  split at h
  · rename_i found hfound
    rw [dif_pos (Option.some.inj (huid.symm.trans hfound) ▸ hnamed)] at h
    cases h
  · rename_i hmissing
    rw [hmissing] at huid
    cases huid

/-- Without a `uid` the object is refused, and the store stays as it is. -/
theorem deliver_of_unidentified (h : x.subject? = none) : x.deliver w now s = s :=
  Sync.created_of_unidentified w now x.converts (uid_of_unidentified h)

end Converted

namespace Subject

/-- Key of the node of the object. -/
def key (x : Subject) : NodeKey :=
  .ofObject x.kind.name x.uid

/-- Properties of the node of the object if it is written at `now`. -/
def properties (w : Writer) (now : Instant) (x : Subject) : Properties :=
  storedProperties (ObjectOf.fields w.id now x.uid x.kind x.object)

/-- Content of the node of the object: its label, and its properties without `createdAt`. It does
not depend on when the node is written (`content_node`). -/
def content (w : Writer) (x : Subject) : List String × Properties :=
  ([x.kind.name], Node.lasting [x.kind.name] (x.properties w ⟨0, 0⟩))

/-- The graph after the object was followed (`Graph.follow`). -/
def follow (w : Writer) (now : Instant) (x : Subject) (g : Graph) : Graph :=
  g.follow w now x.kind x.object x.uid

theorem graph_deliver {w : Writer} {now : Instant} {x : Subject} {s : MemoryStore}
    (h : s.writable = true) : (x.deliver w now s).graph = x.follow w now s.graph :=
  Sync.graph_created w now x.converts x.identified x.named h

/-- A node that is written for `x` has the content of `x`, whatever its number and the time. -/
theorem content_node (w : Writer) (now : Instant) (x : Subject) (id : Nat) :
    Node.content ⟨id, [x.kind.name], x.properties w now⟩ = x.content w :=
  Prod.ext rfl (ObjectOf.lasting_fields w.id now ⟨0, 0⟩ x.uid x.kind x.object)

theorem labels_of_content {w : Writer} {x : Subject} {n : Node} (h : n.content = x.content w) :
    n.labels = [x.kind.name] :=
  congrArg Prod.fst h

theorem key_of_content {w : Writer} {x : Subject} {n : Node} (h : n.content = x.content w) :
    n.key = x.key := by
  have hnode := x.content_node w ⟨0, 0⟩ 0
  rw [Node.key_of_content (h.trans hnode.symm)]
  unfold Node.key key NodeKey.ofObject Node.text? properties
  rw [ObjectOf.storedUid]
  rfl

/-- Among `nodes`, the object `x` calls for a relationship `rel` from `a` to `b`, where nodes are
told apart by `f`: by their number, or by their key. -/
def Calls {α : Type} (w : Writer) (x : Subject) (nodes : List Node) (f : Node → α) (a : α)
    (rel : Relationship) (b : α) : Prop :=
  ∃ l ∈ ObjectOf.relations w x.kind x.object nodes, l.isValid = true ∧ l.rel = rel
    ∧ (∃ n ∈ nodes, n.isMeantBy l.source = true ∧ f n = a)
    ∧ ∃ n ∈ nodes, n.isMeantBy l.target = true ∧ f n = b

variable {α : Type} {w : Writer} {x : Subject} {nodes more : List Node} {f : Node → α} {a b : α}
  {rel : Relationship}

/-- For `f := Node.id`: the edges that `x` calls for are those of its `ObjectOf.relations`. -/
theorem calls_id_iff {e : Edge} : x.Calls w nodes Node.id e.source e.rel e.target
    ↔ ∃ l ∈ ObjectOf.relations w x.kind x.object nodes, e ∈ l.edges nodes := by
  unfold Calls
  refine exists_congr fun l => and_congr_right fun _ => ?_
  rw [Link.mem_edges, eq_comm (a := e.rel)]

/-- What is called for among `nodes` is also called for among `more`, if it has nodes with the same
contents and the same `f`. -/
theorem Calls.mono (h : x.Calls w nodes f a rel b)
    (hmore : ∀ n ∈ nodes, ∃ m ∈ more, m.content = n.content ∧ f m = f n) :
    x.Calls w more f a rel b := by
  have hcontent : ∀ n ∈ nodes, ∃ m ∈ more, m.content = n.content := by
    intro n hn
    obtain ⟨m, hm, heq, -⟩ := hmore n hn
    exact ⟨m, hm, heq⟩
  have hmeans : ∀ (ref : NodeRef) (c : α), ref.IsLasting →
      (∃ n ∈ nodes, n.isMeantBy ref = true ∧ f n = c) →
      ∃ n ∈ more, n.isMeantBy ref = true ∧ f n = c := by
    rintro ref c hlasting ⟨n, hn, hmeant, hc⟩
    obtain ⟨m, hm, heq, hf⟩ := hmore n hn
    exact ⟨m, hm, (Node.isMeantBy_of_content heq hlasting).trans hmeant, hf.trans hc⟩
  obtain ⟨l, hl, hvalid, hrel, hsource, htarget⟩ := h
  obtain ⟨hlsource, hltarget⟩ := ObjectOf.isLasting_relations l hl
  exact ⟨l, ObjectOf.relations_mono hcontent l hl, hvalid, hrel, hmeans _ _ hlsource hsource,
    hmeans _ _ hltarget htarget⟩

end Subject

/-! ## What is kept from the first delivery on -/

/-- In a graph that is `KeyedAt label`, two nodes with the key of `uid` are the same. -/
theorem Graph.KeyedAt.eq_of_key {g : Graph} {label uid : String} (hg : g.KeyedAt label)
    {n m : Node} (hn : n ∈ g.nodes) (hm : m ∈ g.nodes) (hnkey : n.key = .ofObject label uid)
    (hmkey : m.key = .ofObject label uid) : n = m := by
  have hone := hg.atMostOne uid
  rw [propertiesAt, List.length_map] at hone
  exact eq_of_nodesWhere hone hn hm (decide_eq_true hnkey) (decide_eq_true hmkey)

/-- The numbers of the nodes together with their contents: all that edges depend on. -/
def Graph.table (g : Graph) : List (Nat × List String × Properties) :=
  g.nodes.map fun n => (n.id, n.content)

/-- Soundness of a graph for `objects`: each node has the content of one of them, and each edge is
called for by one of them (`Subject.Calls`). -/
structure Graph.Shows (w : Writer) (objects : List Subject) (g : Graph) : Prop where
  numbered : g.Numbered
  keyed : ∀ label, g.KeyedAt label
  known : ∀ n ∈ g.nodes, ∃ x ∈ objects, n.content = x.content w
  called : ∀ e ∈ g.edges, ∃ x ∈ objects, x.Calls w g.nodes Node.id e.source e.rel e.target

/-- The graph has a node with the content of `x`. -/
def Graph.Has (w : Writer) (g : Graph) (x : Subject) : Prop :=
  ∃ n ∈ g.nodes, n.content = x.content w

/-- Each node of `g` is in `h`, with its number and its content. -/
def Graph.Extends (g h : Graph) : Prop :=
  ∀ n ∈ g.nodes, ∃ m ∈ h.nodes, m.id = n.id ∧ m.content = n.content

theorem Graph.Extends.has {w : Writer} {g h : Graph} (hgh : g.Extends h) {x : Subject}
    (hx : g.Has w x) : h.Has w x := by
  obtain ⟨n, hn, hcontent⟩ := hx
  obtain ⟨m, hm, -, heq⟩ := hgh n hn
  exact ⟨m, hm, heq.trans hcontent⟩

theorem Graph.extends_of_table {g h : Graph} {rest : List (Nat × List String × Properties)}
    (heq : h.table = g.table ++ rest) : g.Extends h := by
  intro n hn
  have hmem : (n.id, n.content) ∈ h.table := by
    rw [heq]
    exact List.mem_append_left _ (List.mem_map_of_mem (f := fun n => (n.id, n.content)) hn)
  obtain ⟨m, hm, hrow⟩ := List.mem_map.mp hmem
  exact ⟨m, hm, (Prod.mk.inj hrow).1, (Prod.mk.inj hrow).2⟩

section Deliveries

variable {w : Writer} {objects : List Subject} {g : Graph} {x : Subject}

/-- Among the nodes of a graph that shows `objects`, an upsert of `x` finds just the node with the
content of `x`. -/
theorem Graph.Shows.isUpsertTarget_iff (h : g.Shows w objects)
    (hdistinct : (objects.map Subject.key).Nodup) (hx : x ∈ objects) {n : Node}
    (hn : n ∈ g.nodes) :
    n.isUpsertTarget [x.kind.name] Key.uid (.text x.uid) = true ↔ n.content = x.content w := by
  rw [Node.isUpsertTarget_uid]
  constructor
  · rintro ⟨hlabel, huid⟩
    obtain ⟨y, hy, hcontent⟩ := h.known n hn
    have hkey : y.key = x.key :=
      (Subject.key_of_content hcontent).symm.trans ((h.keyed _).key_eq hn hlabel huid)
    rw [← List.inj_on_of_nodup_map hdistinct hy hx hkey]
    exact hcontent
  · intro hcontent
    have hkey := Subject.key_of_content hcontent
    exact ⟨Node.hasLabel_of_labels_eq (congrArg NodeKey.labels hkey), congrArg NodeKey.uid hkey⟩

/-- Following `x` leaves the table of the graph as it is if it has the node of `x`, and otherwise
adds this node with the next number. -/
theorem Graph.Shows.table_follow (h : g.Shows w objects)
    (hdistinct : (objects.map Subject.key).Nodup) (hx : x ∈ objects) (now : Instant) :
    (g.Has w x ∧ (x.follow w now g).table = g.table ∧ (x.follow w now g).nextId = g.nextId)
      ∨ (x.follow w now g).table = g.table ++ [(g.nextId, x.content w)] := by
  have htable : (x.follow w now g).table
      = (g.upsert [x.kind.name] Key.uid (.text x.uid) (x.properties w now)).table := rfl
  have hnext : (x.follow w now g).nextId
      = (g.upsert [x.kind.name] Key.uid (.text x.uid) (x.properties w now)).nextId := rfl
  rw [htable, hnext]
  rcases g.upsert_cases [x.kind.name] Key.uid (.text x.uid) (x.properties w now) with
    ⟨before, n, after, hnodes, -, hn, hwritten⟩ | ⟨-, hadded⟩
  · left
    have hmem : n ∈ g.nodes := by rw [hnodes]; simp
    have hcontent := (h.isUpsertTarget_iff hdistinct hx hmem).mp hn
    have hrow : Node.content ⟨n.id, n.labels, x.properties w now⟩ = n.content := by
      rw [Subject.labels_of_content hcontent, Subject.content_node, hcontent]
    rw [hwritten]
    refine ⟨⟨n, hmem, hcontent⟩, ?_, rfl⟩
    unfold table
    rw [hnodes]
    simp [hrow]
  · right
    rw [hadded]
    unfold table
    rw [nodes_addNode, List.map_append, List.map_singleton]
    exact congrArg (fun c => _ ++ [(g.nextId, c)]) (x.content_node w now g.nextId)

theorem Graph.Shows.extends_follow (h : g.Shows w objects)
    (hdistinct : (objects.map Subject.key).Nodup) (hx : x ∈ objects) (now : Instant) :
    g.Extends (x.follow w now g) := by
  rcases h.table_follow hdistinct hx now with ⟨-, htable, -⟩ | htable
  · exact extends_of_table (htable.trans (List.append_nil _).symm)
  · exact extends_of_table htable

theorem Graph.Shows.has_follow (h : g.Shows w objects)
    (hdistinct : (objects.map Subject.key).Nodup) (hx : x ∈ objects) (now : Instant) :
    (x.follow w now g).Has w x := by
  rcases h.table_follow hdistinct hx now with ⟨hhas, -, -⟩ | htable
  · exact (h.extends_follow hdistinct hx now).has hhas
  · have hmem : (g.nextId, x.content w) ∈ (x.follow w now g).table := by
      rw [htable]
      exact List.mem_append_right _ (List.mem_singleton_self _)
    obtain ⟨n, hn, hrow⟩ := List.mem_map.mp hmem
    exact ⟨n, hn, (Prod.mk.inj hrow).2⟩

/-- Step lemma of `Shows`: following one of `objects` keeps it. -/
theorem Graph.Shows.follow (h : g.Shows w objects)
    (hdistinct : (objects.map Subject.key).Nodup) (hx : x ∈ objects) (now : Instant) :
    (x.follow w now g).Shows w objects := by
  have hextends := h.extends_follow hdistinct hx now
  have hkeyed : ∀ label, (g.writeObject w now x.kind x.object x.uid).KeyedAt label :=
    fun label => (h.keyed label).upsert (ObjectOf.storedUid w.id now x.uid x.kind x.object)
  refine ⟨(h.numbered.upsert _ _ _ _).congr rfl rfl,
    fun label => (hkeyed label).congr nodes_follow.symm, fun n hn => ?_, fun e he => ?_⟩
  · have hmem : (n.id, n.content) ∈ (x.follow w now g).table :=
      List.mem_map_of_mem (f := fun n => (n.id, n.content)) hn
    have hold : (n.id, n.content) ∈ g.table → ∃ y ∈ objects, n.content = y.content w := by
      intro hold
      obtain ⟨m, hm, hrow⟩ := List.mem_map.mp hold
      obtain ⟨y, hy, hcontent⟩ := h.known m hm
      exact ⟨y, hy, (Prod.mk.inj hrow).2.symm.trans hcontent⟩
    rcases h.table_follow hdistinct hx now with ⟨-, htable, -⟩ | htable
    · exact hold (htable ▸ hmem)
    · rw [htable, List.mem_append, List.mem_singleton] at hmem
      rcases hmem with hmem | hnew
      · exact hold hmem
      · exact ⟨x, hx, (Prod.mk.inj hnew).2⟩
  · rcases mem_edges_follow.mp he with hold | hnew
    · obtain ⟨y, hy, hcalls⟩ := h.called e hold
      refine ⟨y, hy, hcalls.mono fun n hn => ?_⟩
      obtain ⟨m, hm, hid, hcontent⟩ := hextends n hn
      exact ⟨m, hm, hcontent, hid⟩
    · exact ⟨x, hx, Subject.calls_id_iff.mpr hnew⟩

/-! ## Rounds -/

/-- Follow the objects of `deliveries` one after the other, in a graph. -/
def Subject.followAll (w : Writer) (deliveries : List (Instant × Subject)) (g : Graph) : Graph :=
  deliveries.foldl (fun g d => d.2.follow w d.1 g) g

theorem Subject.followAll_cons (d : Instant × Subject) (rest : List (Instant × Subject))
    (g : Graph) : followAll w (d :: rest) g = followAll w rest (d.2.follow w d.1 g) :=
  rfl

theorem Subject.followAll_append (first second : List (Instant × Subject)) (g : Graph) :
    followAll w (first ++ second) g = followAll w second (followAll w first g) :=
  List.foldl_append

/-- Run lemma of `Shows`: it is kept by any deliveries of `objects`; no object loses its node, and
each that was delivered has one. -/
theorem Graph.Shows.followAll (hdistinct : (objects.map Subject.key).Nodup)
    {deliveries : List (Instant × Subject)} (hobjects : ∀ d ∈ deliveries, d.2 ∈ objects)
    (h : g.Shows w objects) :
    (Subject.followAll w deliveries g).Shows w objects
      ∧ (∀ y, g.Has w y → (Subject.followAll w deliveries g).Has w y)
      ∧ ∀ d ∈ deliveries, (Subject.followAll w deliveries g).Has w d.2 := by
  induction deliveries generalizing g with
  | nil => exact ⟨h, fun _ hy => hy, fun _ hd => absurd hd List.not_mem_nil⟩
  | cons d rest ih =>
      rw [Subject.followAll_cons]
      have hd := hobjects d (by simp)
      obtain ⟨hshows, hkeeps, hrest⟩ := ih (fun r hr => hobjects r (List.mem_cons_of_mem _ hr))
        (h.follow hdistinct hd d.1)
      refine ⟨hshows, fun y hy => hkeeps y ((h.extends_follow hdistinct hd d.1).has hy), ?_⟩
      rintro r hr
      rcases List.mem_cons.mp hr with rfl | hr
      · exact hkeeps _ (h.has_follow hdistinct hd r.1)
      · exact hrest r hr

/-- Completeness for `x`: all edges that `x` calls for are there. -/
def Graph.Completes (w : Writer) (g : Graph) (x : Subject) : Prop :=
  ∀ e : Edge, x.Calls w g.nodes Node.id e.source e.rel e.target → e ∈ g.edges

/-- As `Calls` depends on the table alone, graphs with the same table call for the same edges. -/
theorem Subject.calls_of_table {h : Graph} (htable : g.table = h.table) {y : Subject} {a b : Nat}
    {rel : Relationship} (hcalls : y.Calls w g.nodes Node.id a rel b) :
    y.Calls w h.nodes Node.id a rel b := by
  refine hcalls.mono fun n hn => ?_
  obtain ⟨m, hm, hid, hcontent⟩ := Graph.extends_of_table
    (htable.symm.trans (List.append_nil _).symm) n hn
  exact ⟨m, hm, hcontent, hid⟩

theorem Graph.completes_follow (now : Instant) : (x.follow w now g).Completes w x :=
  fun _ hcalls => mem_edges_follow.mpr (.inr (Subject.calls_id_iff.mp hcalls))

theorem Graph.Completes.follow {y : Subject} (hy : g.Completes w y) (now : Instant)
    (htable : (x.follow w now g).table = g.table) : (x.follow w now g).Completes w y :=
  fun e hcalls => mem_edges_follow.mpr (.inl (hy e (Subject.calls_of_table htable hcalls)))

/-- A graph that is sound and complete for `objects`, and has the node of each. -/
structure Graph.Settled (w : Writer) (objects : List Subject) (g : Graph) : Prop where
  shows_ : g.Shows w objects
  full : ∀ x ∈ objects, g.Has w x
  complete : ∀ x ∈ objects, g.Completes w x

/-- If each object has its node, following one of them leaves the table as it is. -/
theorem Graph.Shows.table_follow_of_full (h : g.Shows w objects)
    (hdistinct : (objects.map Subject.key).Nodup) (hx : x ∈ objects) (hhas : g.Has w x)
    (now : Instant) :
    (x.follow w now g).table = g.table ∧ (x.follow w now g).nextId = g.nextId := by
  rcases h.table_follow hdistinct hx now with ⟨-, htable, hnext⟩ | htable
  · exact ⟨htable, hnext⟩
  -- A new node beside the one that is there would be a second one under its key.
  · exfalso
    have hnew : (g.nextId, x.content w) ∈ (x.follow w now g).table := by
      rw [htable]
      exact List.mem_append_right _ (List.mem_singleton_self _)
    obtain ⟨n, hn, hrow⟩ := List.mem_map.mp hnew
    obtain ⟨m, hm, hcontent⟩ := hhas
    obtain ⟨m', hm', hid, hcontent'⟩ := h.extends_follow hdistinct hx now m hm
    have hshows := h.follow hdistinct hx now
    have hsame : n = m' := (hshows.keyed x.kind.name).eq_of_key hn hm'
      (Subject.key_of_content (Prod.mk.inj hrow).2)
      (Subject.key_of_content (hcontent'.trans hcontent))
    have hbelow := h.numbered.below m hm
    rw [← hid, ← hsame, (Prod.mk.inj hrow).1] at hbelow
    exact Nat.lt_irrefl _ hbelow

/-- If each object has its node, any further deliveries keep what is complete, and complete each
object that is delivered. -/
theorem Graph.Shows.followAll_of_full (hdistinct : (objects.map Subject.key).Nodup)
    {deliveries : List (Instant × Subject)} (hobjects : ∀ d ∈ deliveries, d.2 ∈ objects)
    (h : g.Shows w objects) (hfull : ∀ y ∈ objects, g.Has w y) :
    (∀ y, g.Completes w y → (Subject.followAll w deliveries g).Completes w y)
      ∧ ∀ d ∈ deliveries, (Subject.followAll w deliveries g).Completes w d.2 := by
  induction deliveries generalizing g with
  | nil => exact ⟨fun _ hy => hy, fun _ hd => absurd hd List.not_mem_nil⟩
  | cons d rest ih =>
      rw [Subject.followAll_cons]
      have hd := hobjects d (by simp)
      obtain ⟨htable, -⟩ := h.table_follow_of_full hdistinct hd (hfull _ hd) d.1
      have hextends := h.extends_follow hdistinct hd d.1
      obtain ⟨hkeeps, hrest⟩ := ih (fun r hr => hobjects r (List.mem_cons_of_mem _ hr))
        (h.follow hdistinct hd d.1) (fun y hy => hextends.has (hfull y hy))
      refine ⟨fun y hy => hkeeps y (hy.follow d.1 htable), ?_⟩
      rintro r hr
      rcases List.mem_cons.mp hr with rfl | hr
      · exact hkeeps _ (completes_follow r.1)
      · exact hrest r hr

/-! ## The settled graph -/

theorem Graph.shows_empty : Graph.empty.Shows w objects := by
  refine ⟨numbered_empty, fun label => keyedAt_of_unlabelled ?_, ?_, ?_⟩
  · exact fun n hn => absurd hn List.not_mem_nil
  · exact fun n hn => absurd hn List.not_mem_nil
  · exact fun e he => absurd he List.not_mem_nil

/-- After two rounds over `objects`, each in any order, the graph is `Settled`: the first round
writes all nodes, and the second makes the edges whose other end was missing. -/
theorem Subject.settled_of_two_rounds (hdistinct : (objects.map Subject.key).Nodup)
    {first second : List (Instant × Subject)} (hfirst : (first.map Prod.snd).Perm objects)
    (hsecond : (second.map Prod.snd).Perm objects) :
    (followAll w (first ++ second) Graph.empty).Settled w objects := by
  have hof : ∀ {round : List (Instant × Subject)}, (round.map Prod.snd).Perm objects →
      ∀ d ∈ round, d.2 ∈ objects :=
    fun hround d hd => hround.subset (List.mem_map_of_mem hd)
  have hall : ∀ {round : List (Instant × Subject)}, (round.map Prod.snd).Perm objects →
      ∀ x ∈ objects, ∃ d ∈ round, d.2 = x :=
    fun hround x hx => List.mem_map.mp (hround.symm.subset hx)
  obtain ⟨hshows, -, hhas⟩ := Graph.shows_empty.followAll (w := w) hdistinct (hof hfirst)
  have hfull : ∀ x ∈ objects, (followAll w first Graph.empty).Has w x := by
    intro x hx
    obtain ⟨d, hd, rfl⟩ := hall hfirst x hx
    exact hhas d hd
  obtain ⟨hshows', hkeeps, -⟩ := hshows.followAll hdistinct (hof hsecond)
  obtain ⟨-, hcomplete⟩ := hshows.followAll_of_full hdistinct (hof hsecond) hfull
  rw [followAll_append]
  refine ⟨hshows', fun x hx => hkeeps x (hfull x hx), fun x hx => ?_⟩
  obtain ⟨d, hd, rfl⟩ := hall hsecond x hx
  exact hcomplete d hd

/-- There is an edge `rel` from a node with the key `κ` to one with the key `κ'`. -/
def Graph.Joins (g : Graph) (κ : NodeKey) (rel : Relationship) (κ' : NodeKey) : Prop :=
  ∃ e ∈ g.edges, e.rel = rel ∧ (∃ n ∈ g.nodes, n.id = e.source ∧ n.key = κ)
    ∧ ∃ n ∈ g.nodes, n.id = e.target ∧ n.key = κ'

namespace Graph.Settled

/-- In a settled graph, edges between keys are those that the objects call for. -/
theorem joins_iff (h : g.Settled w objects) {κ κ' : NodeKey} {rel : Relationship} :
    g.Joins κ rel κ' ↔ ∃ x ∈ objects, x.Calls w g.nodes Node.key κ rel κ' := by
  constructor
  · rintro ⟨e, he, rfl, ⟨n, hn, hnid, rfl⟩, m, hm, hmid, rfl⟩
    obtain ⟨x, hx, l, hl, hvalid, hrel, ⟨a, ha, hasource, haid⟩, b, hb, hbtarget, hbid⟩ :=
      h.shows_.called e he
    refine ⟨x, hx, l, hl, hvalid, hrel, ⟨a, ha, hasource, ?_⟩, b, hb, hbtarget, ?_⟩
    · rw [h.shows_.numbered.eq_of_id ha hn (haid.trans hnid.symm)]
    · rw [h.shows_.numbered.eq_of_id hb hm (hbid.trans hmid.symm)]
  · rintro ⟨x, hx, l, hl, hvalid, hrel, ⟨a, ha, hasource, rfl⟩, b, hb, hbtarget, rfl⟩
    refine ⟨⟨a.id, rel, b.id⟩, h.complete x hx _ ?_, rfl, ⟨a, ha, rfl, rfl⟩, b, hb, rfl, rfl⟩
    exact ⟨l, hl, hvalid, hrel, ⟨a, ha, hasource, rfl⟩, b, hb, hbtarget, rfl⟩

theorem mem_map_content (h : g.Settled w objects) {c : List String × Properties} :
    c ∈ g.nodes.map Node.content ↔ ∃ x ∈ objects, x.content w = c := by
  rw [List.mem_map]
  constructor
  · rintro ⟨n, hn, rfl⟩
    obtain ⟨x, hx, hcontent⟩ := h.shows_.known n hn
    exact ⟨x, hx, hcontent.symm⟩
  · rintro ⟨x, hx, rfl⟩
    exact h.full x hx

/-- In a settled graph, no two nodes have the same content. -/
theorem nodup_contents (h : g.Settled w objects) : (g.nodes.map Node.content).Nodup := by
  refine List.Nodup.map_on (fun n hn m hm hcontent => ?_) h.shows_.numbered.distinct.of_map
  obtain ⟨x, -, hx⟩ := h.shows_.known n hn
  exact (h.shows_.keyed x.kind.name).eq_of_key hn hm (Subject.key_of_content hx)
    (Subject.key_of_content (hcontent.symm.trans hx))

/-- Two settled graphs of the same objects have the same contents, and the same edges between keys.
They can differ in the numbers of nodes and in `createdAt`. -/
theorem unique {h : Graph} (hg : g.Settled w objects) (hh : h.Settled w objects) :
    (g.nodes.map Node.content).Perm (h.nodes.map Node.content)
      ∧ ∀ κ rel κ', g.Joins κ rel κ' ↔ h.Joins κ rel κ' := by
  have hcontents : ∀ c, c ∈ g.nodes.map Node.content ↔ c ∈ h.nodes.map Node.content := by
    intro c
    rw [hg.mem_map_content, hh.mem_map_content]
  have hcalls : ∀ {g h : Graph},
      (∀ c, c ∈ g.nodes.map Node.content → c ∈ h.nodes.map Node.content) →
      ∀ {x : Subject} {κ κ' : NodeKey} {rel : Relationship},
        x.Calls w g.nodes Node.key κ rel κ' → x.Calls w h.nodes Node.key κ rel κ' := by
    intro g h hsub x κ κ' rel hx
    refine hx.mono fun n hn => ?_
    obtain ⟨m, hm, hcontent⟩ := List.mem_map.mp (hsub _ (List.mem_map_of_mem hn))
    exact ⟨m, hm, hcontent, Node.key_of_content hcontent⟩
  refine ⟨(List.perm_ext_iff_of_nodup hg.nodup_contents hh.nodup_contents).mpr hcontents,
    fun κ rel κ' => ?_⟩
  rw [hg.joins_iff, hh.joins_iff]
  exact exists_congr fun x => and_congr_right fun _ =>
    ⟨hcalls fun c => (hcontents c).mp, hcalls fun c => (hcontents c).mpr⟩

/-- In a settled graph, following one of the objects again changes neither the table nor the
edges. -/
theorem follow_eq (h : g.Settled w objects) (hdistinct : (objects.map Subject.key).Nodup)
    (hx : x ∈ objects) (now : Instant) :
    (x.follow w now g).table = g.table ∧ (x.follow w now g).edges = g.edges
      ∧ (x.follow w now g).nextId = g.nextId := by
  obtain ⟨htable, hnext⟩ := h.shows_.table_follow_of_full hdistinct hx (h.full x hx) now
  refine ⟨htable, ?_, hnext⟩
  unfold Subject.follow Graph.follow
  rw [join_of_subset]
  · exact edges_upsert _ _ _ _ _
  · intro l hl e he
    rw [writeObject, edges_upsert]
    exact h.complete x hx e
      (Subject.calls_of_table htable (Subject.calls_id_iff.mpr ⟨l, hl, he⟩))

end Graph.Settled

end Deliveries

/-! ## Objects with and without an identity -/

namespace Converted

variable {w : Writer} {objects : List Converted} {deliveries : List (Instant × Converted)}

/-- The deliveries of objects that have a `uid`, as subjects. -/
def identified (deliveries : List (Instant × Converted)) : List (Instant × Subject) :=
  deliveries.filterMap fun d => d.2.subject?.map (Prod.mk d.1)

theorem writable_deliver {x : Converted} {s : MemoryStore} (now : Instant)
    (h : s.writable = true) : (x.deliver w now s).writable = true :=
  Sync.writable_created w now x.kind x.raw h

theorem writable_deliverAll (deliveries : List (Instant × Converted)) {s : MemoryStore}
    (h : s.writable = true) : (deliverAll w deliveries s).writable = true := by
  induction deliveries generalizing s with
  | nil => exact h
  | cons d rest ih => exact ih (writable_deliver d.1 h)

/-- Running `deliverAll` comes to following the subjects; objects without a `uid` do nothing. -/
theorem graph_deliverAll (deliveries : List (Instant × Converted)) {s : MemoryStore}
    (h : s.writable = true) :
    (deliverAll w deliveries s).graph = Subject.followAll w (identified deliveries) s.graph := by
  induction deliveries generalizing s with
  | nil => rfl
  | cons d rest ih =>
      refine (ih (writable_deliver d.1 h)).trans ?_
      unfold identified
      cases hsubject : d.2.subject? with
      | none =>
          rw [List.filterMap_cons_none (by rw [hsubject]; rfl), deliver_of_unidentified hsubject]
      | some y =>
          rw [List.filterMap_cons_some (by rw [hsubject]; rfl), Subject.followAll_cons,
            ← toConverted_of_subject? hsubject, Subject.graph_deliver h]

theorem map_snd_identified (deliveries : List (Instant × Converted)) :
    (identified deliveries).map Prod.snd = (deliveries.map Prod.snd).filterMap subject? := by
  unfold identified
  rw [List.map_filterMap, List.filterMap_map]
  refine List.filterMap_congr fun d _ => ?_
  cases h : d.2.subject? <;> simp [h]

theorem nodup_keys (h : (objects.map identity).Nodup) :
    ((objects.filterMap subject?).map Subject.key).Nodup := by
  refine List.pairwise_map.mpr (List.Pairwise.filterMap _ ?_ (List.pairwise_map.mp h))
  intro x x' hne y hy y' hy' hkey
  refine hne ?_
  rw [← toConverted_of_subject? hy, ← toConverted_of_subject? hy']
  obtain ⟨hkind, huid⟩ := NodeKey.ofObject_inj.mp hkey
  exact Prod.ext (Kind.name_injective hkind)
    (y.identified.trans ((congrArg some huid).trans y'.identified.symm))

theorem settled_of_two_rounds (hdistinct : (objects.map identity).Nodup)
    {first second : List (Instant × Converted)} (hfirst : (first.map Prod.snd).Perm objects)
    (hsecond : (second.map Prod.snd).Perm objects) :
    (deliverAll w (first ++ second) MemoryStore.empty).graph.Settled w
      (objects.filterMap subject?) := by
  have hround : ∀ {round : List (Instant × Converted)}, (round.map Prod.snd).Perm objects →
      ((identified round).map Prod.snd).Perm (objects.filterMap subject?) := by
    intro round hround
    rw [map_snd_identified]
    exact hround.filterMap _
  rw [graph_deliverAll _ rfl]
  unfold identified
  rw [List.filterMap_append]
  exact Subject.settled_of_two_rounds (nodup_keys hdistinct) (hround hfirst) (hround hsecond)

/-- Convergence. If each of `objects` is followed once in each of two rounds, in any order, the
graph is the same as after two rounds in any other order, but for the numbers of nodes and
`createdAt`; and following any of the objects once more changes nothing. -/
theorem converges (w : Writer) (objects : List Converted)
    (first second first' second' : List (Instant × Converted))
    (hdistinct : (objects.map identity).Nodup)
    (hfirst : (first.map Prod.snd).Perm objects) (hsecond : (second.map Prod.snd).Perm objects)
    (hfirst' : (first'.map Prod.snd).Perm objects)
    (hsecond' : (second'.map Prod.snd).Perm objects) :
    let s := deliverAll w (first ++ second) MemoryStore.empty
    let s' := deliverAll w (first' ++ second') MemoryStore.empty
    (s.graph.nodes.map Node.content).Perm (s'.graph.nodes.map Node.content)
      ∧ (∀ κ rel κ', s.graph.Joins κ rel κ' ↔ s'.graph.Joins κ rel κ')
      ∧ ∀ x ∈ objects, ∀ now, (x.deliver w now s).graph.table = s.graph.table
          ∧ (x.deliver w now s).graph.edges = s.graph.edges
          ∧ (x.deliver w now s).graph.nextId = s.graph.nextId := by
  intro s s'
  have hs : s.graph.Settled w _ := settled_of_two_rounds hdistinct hfirst hsecond
  have hs' : s'.graph.Settled w _ := settled_of_two_rounds hdistinct hfirst' hsecond'
  obtain ⟨hcontents, hjoins⟩ := hs.unique hs'
  refine ⟨hcontents, hjoins, fun x hx now => ?_⟩
  cases h : x.subject? with
  | none =>
      rw [deliver_of_unidentified h]
      exact ⟨rfl, rfl, rfl⟩
  | some y =>
      rw [← toConverted_of_subject? h, Subject.graph_deliver (writable_deliverAll _ rfl)]
      exact hs.follow_eq (nodup_keys hdistinct) (List.mem_filterMap.mpr ⟨x, hx, h⟩) now

/-- Writer for the cluster `c1`, without owners. -/
def shopWriter : Writer :=
  ⟨⟨"c1", "h1"⟩, OwnerKinds.empty⟩

/-- A service of the namespace `shop`. -/
def shopService : Converted where
  kind := .service
  raw := .typed .service ⟨⟨some "s", some "web", some "shop", none, none, none, []⟩, none⟩
  object := ⟨⟨some "s", some "web", some "shop", none, none, none, []⟩, none⟩
  converts := rfl

/-- An ingress of the namespace `shop` that routes to `shopService`. -/
def shopIngress : Converted where
  kind := .ingress
  raw := .typed .ingress ⟨⟨some "i", some "front", some "shop", none, none, none, []⟩,
    some ⟨none, [], false, ["web"]⟩⟩
  object := ⟨⟨some "i", some "front", some "shop", none, none, none, []⟩,
    some ⟨none, [], false, ["web"]⟩⟩
  converts := rfl

/-- One round in which the ingress comes before its service, and one in which it comes after. -/
def ingressFirst : List (Instant × Converted) :=
  [(⟨0, 0⟩, shopIngress), (⟨1, 0⟩, shopService)]

def ingressLast : List (Instant × Converted) :=
  [(⟨0, 0⟩, shopService), (⟨1, 0⟩, shopIngress)]

/-- Instance of `converges`: an ingress that comes before its service is not linked to it after one
round but is after two, and then the edges are those of the other order. -/
theorem converges_shop :
    (deliverAll shopWriter ingressFirst MemoryStore.empty).graph.edges = []
      ∧ (deliverAll shopWriter (ingressFirst ++ ingressFirst) MemoryStore.empty).graph.edges
        = [⟨0, .routesTo, 1⟩]
      ∧ ∀ κ rel κ',
          (deliverAll shopWriter (ingressFirst ++ ingressFirst) MemoryStore.empty).graph.Joins
              κ rel κ'
            ↔ (deliverAll shopWriter (ingressLast ++ ingressFirst) MemoryStore.empty).graph.Joins
                κ rel κ' := by
  refine ⟨by decide +kernel, by decide +kernel, ?_⟩
  exact (converges shopWriter [shopIngress, shopService] ingressFirst ingressFirst ingressLast
    ingressFirst (by decide) (.refl _) (.refl _) (.swap _ _ _) (.refl _)).2.1

end Converted

end ClusterGraph
