import ClusterGraph.Proofs.Instance.Calls
import ClusterGraph.Proofs.Store.Unreliable

/-!
# ClusterGraph.Proofs.Store.Integrity

**Whatever a store is asked for, its graph stays in good order, as long as nodes are written as
objects are: under one label and by a unique identifier.**

Good order (`Graph.Intact`) is what references by identifier rely on: a relationship joins nodes
that are there, a number is never used twice, and an identifier means one node of its label at
most. All that a call can do to a graph is to write one node, to take nodes away with the
relationships at them, or to join nodes (`Call.effect_cases`); each of the three keeps the order,
and whether the store may be written when a call comes makes no difference
(`MemoryStore.intact_stepAll`).
-/

namespace ClusterGraph

namespace Graph

/-! ## Graphs in good order -/

/-- Invariant of a graph to which only calls that `WritesByUid` were made. -/
structure Intact (g : Graph) : Prop where
  /-- Nodes have distinct numbers below `nextId`. -/
  numbered : g.Numbered
  /-- Both ends of an edge are there. -/
  closed : g.Closed
  /-- Nodes have one label each, and no two of a label have the same `uid`. -/
  keyed : g.Keyed
  /-- Each node has a `uid`, and it is a text. -/
  identified : ∀ n ∈ g.nodes, ∃ uid, n.properties.find? Key.uid = some (.text uid)

theorem intact_empty : Graph.empty.Intact where
  numbered := numbered_empty
  closed := nofun
  keyed := ⟨nofun, fun _ _ => Nat.zero_le 1⟩
  identified := nofun

/-- Under a keyed label, the nodes that `byUid` means are those with the key of the `uid`. -/
theorem KeyedAt.length_nodesAt {g : Graph} {label : String} (hg : g.KeyedAt label) (uid : String) :
    (g.nodesAt (.byUid label uid)).length = (g.propertiesAt (.ofObject label uid)).length := by
  unfold propertiesAt
  rw [List.length_map]
  refine congrArg List.length (List.filter_congr fun n hn => Bool.eq_iff_iff.mpr ?_)
  rw [decide_eq_true_eq, hg.key_eq_iff hn]
  exact Node.isMeantBy_uid

/-- In an intact graph, a label and a `uid` mean at most one node. -/
theorem Intact.length_nodesAt_le {g : Graph} (hg : g.Intact) (label uid : String) :
    (g.nodesAt (.byUid label uid)).length ≤ 1 := by
  rw [(hg.keyed.keyedAt label).length_nodesAt]
  exact hg.keyed.atMostOne label uid

/-! ## What each change keeps -/

theorem Closed.upsert {g : Graph} (hg : g.Closed) (label uid : String) (p : Properties) :
    (g.upsert [label] Key.uid (.text uid) p).Closed := by
  -- A node that is written over keeps its number, so no relationship loses an end.
  have hend : ∀ id, (∃ n ∈ g.nodes, n.id = id) →
      ∃ n ∈ (g.upsert [label] Key.uid (.text uid) p).nodes, n.id = id := by
    rintro id ⟨n, hn, hid⟩
    rcases exists_mem_upsert hn with hkept | ⟨-, hwritten⟩
    · exact ⟨n, hkept, hid⟩
    · exact ⟨_, hwritten, hid⟩
  intro e he
  rw [edges_upsert] at he
  exact ⟨hend _ (hg e he).1, hend _ (hg e he).2⟩

theorem Closed.removeWhere {g : Graph} (hg : g.Closed) (test : Node → Bool) :
    (g.removeWhere test).Closed := by
  intro e he
  obtain ⟨he, hspared⟩ := mem_edges_removeWhere.mp he
  obtain ⟨⟨a, ha, hsource⟩, b, hb, htarget⟩ := hg e he
  have hkept : ∀ n ∈ g.nodes, n.id = e.source ∨ n.id = e.target →
      n ∈ (g.removeWhere test).nodes := by
    intro n hn hid
    refine mem_nodes_removeWhere.mpr ⟨hn, Bool.eq_false_iff.mpr fun htest => ?_⟩
    obtain ⟨hne, hne'⟩ := hspared n hn htest
    exact hid.elim hne hne'
  exact ⟨⟨a, hkept a ha (.inl hsource), hsource⟩, b, hkept b hb (.inr htarget), htarget⟩

theorem Closed.link {g : Graph} (hg : g.Closed) (source : NodeRef) (rel : Relationship)
    (target : NodeRef) : (g.link source rel target).Closed := by
  intro e he
  rcases mem_edges_link.mp he with he | he
  · exact hg e he
  · obtain ⟨-, ⟨a, ha, hsource⟩, b, hb, htarget⟩ := mem_edgesBetween.mp he
    exact ⟨⟨a, (mem_nodesAt.mp ha).1, hsource⟩, b, (mem_nodesAt.mp hb).1, htarget⟩

namespace Intact

variable {g : Graph}

theorem upsert (hg : g.Intact) {label uid : String} {p : Properties}
    (hp : p.find? Key.uid = some (.text uid)) :
    (g.upsert [label] Key.uid (.text uid) p).Intact where
  numbered := hg.numbered.upsert _ _ _ _
  closed := hg.closed.upsert label uid p
  keyed := by
    refine ⟨fun n hn => ?_, fun other => ((hg.keyed.keyedAt other).upsert hp).atMostOne⟩
    rcases mem_upsert_cases hg.keyed.single hn with hn | ⟨hlabels, -⟩
    · exact hg.keyed.single n hn
    · exact ⟨label, hlabels⟩
  identified := by
    intro n hn
    rcases mem_upsert_cases hg.keyed.single hn with hn | ⟨-, hproperties⟩
    · exact hg.identified n hn
    · exact ⟨uid, hproperties ▸ hp⟩

theorem removeWhere (hg : g.Intact) (test : Node → Bool) : (g.removeWhere test).Intact where
  numbered := hg.numbered.removeWhere test
  closed := hg.closed.removeWhere test
  keyed := ⟨fun n hn => hg.keyed.single n (mem_nodes_removeWhere.mp hn).1,
    fun label => ((hg.keyed.keyedAt label).removeWhere test).atMostOne⟩
  identified n hn := hg.identified n (mem_nodes_removeWhere.mp hn).1

theorem link (hg : g.Intact) (source : NodeRef) (rel : Relationship) (target : NodeRef) :
    (g.link source rel target).Intact where
  numbered := hg.numbered.congr rfl rfl
  closed := hg.closed.link source rel target
  keyed := ⟨hg.keyed.single, hg.keyed.atMostOne⟩
  identified := hg.identified

end Intact
end Graph

/-! ## Calls -/

/-- If the call is an upsert, it has one label, and its key is `uid` with a text. -/
def Call.WritesByUid : Call → Prop
  | upsert _ labels properties key => ∃ label uid, labels = [label] ∧ key = Key.uid
      ∧ (storedProperties properties).find? Key.uid = some (.text uid)
  | _ => True

/-- Every call that `IsOwn` for an instance `WritesByUid`. -/
theorem Call.IsOwn.writesByUid {id : Identity} {c : Call} (hc : c.IsOwn id) : c.WritesByUid := by
  cases hc with
  | upsert mode _ huid _ => exact ⟨_, _, rfl, rfl, huid⟩
  | delete => trivial
  | keeps hkeeps =>
      cases c with
      | upsert => cases hkeeps
      | _ => trivial
  | sweep hsweep => cases hsweep <;> trivial
  | pruneEvents => trivial

theorem Graph.Intact.effect {g : Graph} (hg : g.Intact) {c : Call} (hc : c.WritesByUid) :
    (c.effect g).Intact := by
  rcases c.effect_cases g with
    ⟨mode, labels, properties, key, value, rfl, hvalue, heffect⟩ | ⟨test, heffect⟩
      | ⟨source, rel, target, heffect⟩ | heffect
  · obtain ⟨label, uid, rfl, rfl, huid⟩ := hc
    cases hvalue.symm.trans huid
    rw [heffect]
    exact hg.upsert huid
  · rw [heffect]
    exact hg.removeWhere test
  · rw [heffect]
    exact hg.link source rel target
  · rw [heffect]
    exact hg

/-! ## Runs -/

namespace MemoryStore

/-- The store after the call `t.2`, which came while it could be written if `t.1` is true. -/
def step (s : MemoryStore) (t : Bool × Call) : MemoryStore :=
  (perform t.2 { s with writable := t.1 }).2

def stepAll (s : MemoryStore) (steps : List (Bool × Call)) : MemoryStore :=
  steps.foldl step s

/-- Step lemma of `Intact`: a call that `WritesByUid` keeps it, whether it succeeds or fails. -/
theorem intact_step {s : MemoryStore} (hs : s.graph.Intact) {t : Bool × Call}
    (ht : t.2.WritesByUid) : (s.step t).graph.Intact := by
  rcases perform_cases t.2 { s with writable := t.1 } with ⟨-, hkept⟩ | ⟨-, heffect⟩
  · unfold step
    rw [hkept]
    exact hs
  · unfold step
    rw [heffect]
    exact hs.effect ht

theorem intact_stepAll {s : MemoryStore} (hs : s.graph.Intact) {steps : List (Bool × Call)}
    (h : ∀ t ∈ steps, t.2.WritesByUid) : (s.stepAll steps).graph.Intact := by
  induction steps generalizing s with
  | nil => exact hs
  | cons t rest ih =>
      exact ih (intact_step hs (h t List.mem_cons_self))
        fun u hu => h u (List.mem_cons_of_mem _ hu)

/-- In an intact graph, deleting by `uid` removes at most one node. -/
theorem length_nodes_step_delete {s : MemoryStore} (hs : s.graph.Intact) (writable : Bool)
    (label uid : String) : s.graph.nodes.length
      ≤ (s.step (writable, .delete label Key.uid uid)).graph.nodes.length + 1 := by
  rcases perform_cases (.delete label Key.uid uid) { s with writable } with
    ⟨-, hkept⟩ | ⟨-, heffect⟩
  · unfold step
    rw [hkept]
    exact Nat.le_succ _
  · have hcount := s.graph.countWhere_add_length_removeWhere (·.isMeantBy (.byUid label uid))
    have hone : s.graph.countWhere (·.isMeantBy (.byUid label uid)) ≤ 1 :=
      hs.length_nodesAt_le label uid
    unfold step
    rw [heffect]
    show _ ≤ (s.graph.removeWhere (·.isMeantBy (.byUid label uid))).nodes.length + 1
    omega

/-- Integrity of a store that begins empty, for every sequence of calls, with writes failing
whenever they do. If every upsert `WritesByUid`, the graph is `Intact` after all calls, each label
and `uid` mean at most one node, and deleting by `uid` removes at most one. The calls of handlers
and of `Command.register` are of this sort. -/
theorem stays_intact {steps : List (Bool × Call)} (h : ∀ t ∈ steps, t.2.WritesByUid) :
    (∀ (w : Writer) (now : Instant) (k : Kind) (raw : RawObject) (c : Call),
        (Sync.create w now k raw).Calls c ∨ (Sync.delete k raw).Calls c
          ∨ (Command.register w.id now).Calls c → c.WritesByUid)
      ∧ (empty.stepAll steps).graph.Intact
      ∧ ∀ label uid, ((empty.stepAll steps).graph.nodesAt (.byUid label uid)).length ≤ 1
        ∧ ∀ writable, (empty.stepAll steps).graph.nodes.length
          ≤ ((empty.stepAll steps).step (writable, .delete label Key.uid uid)).graph.nodes.length
            + 1 := by
  have hintact := intact_stepAll (s := empty) Graph.intact_empty h
  refine ⟨fun w now k raw c hc => ?_, hintact, fun label uid =>
    ⟨hintact.length_nodesAt_le label uid, fun writable =>
      length_nodes_step_delete hintact writable label uid⟩⟩
  rcases hc with hc | hc | hc
  · have hfollows : Follows w now k (.add raw) (Sync.create w now k raw) := .create rfl
    exact (hfollows.isOwn c hc).writesByUid
  · have hfollows : Follows w now k (.delete raw) (Sync.delete k raw) := .delete raw
    exact (hfollows.isOwn c hc).writesByUid
  · exact (Command.isOwn_register c hc).writesByUid

/-- Upsert of a node with nothing but a `uid`. -/
def bare (label uid : String) : Call :=
  .upsert .direct [label] (Dict.ofList [(Key.uid, .text uid)]) Key.uid

/-- Calls that link a pod to its namespace, fail to write a third node, and delete the namespace. -/
def detaching : List (Bool × Call) :=
  [(true, bare "Namespace" "a"), (true, bare "Pod" "b"),
    (true, .link (.byUid "Pod" "b") .belongsTo (.byUid "Namespace" "a")),
    (false, bare "Node" "c"), (true, .delete "Namespace" Key.uid "a")]

/-- Instance of `stays_intact`: the edge goes with the namespace, and the pod is left. -/
theorem stays_intact_detaching :
    ((empty.stepAll (detaching.take 3)).graph.edges.length = 1
        ∧ (empty.stepAll detaching).graph.edges = [])
      ∧ (empty.stepAll detaching).graph.Intact
      ∧ ((empty.stepAll detaching).graph.nodesAt (.byUid "Pod" "b")).length = 1 := by
  have hwrites : ∀ t ∈ detaching, t.2.WritesByUid := by
    have hbare : ∀ label uid, (bare label uid).WritesByUid := fun label uid =>
      ⟨label, uid, rfl, rfl, rfl⟩
    simp only [detaching, List.forall_mem_cons, hbare, true_and]
    exact ⟨trivial, trivial, nofun⟩
  obtain ⟨-, hintact, hone⟩ := stays_intact hwrites
  refine ⟨by decide +kernel, hintact, Nat.le_antisymm (hone "Pod" "b").1 ?_⟩
  decide +kernel

end MemoryStore
end ClusterGraph
