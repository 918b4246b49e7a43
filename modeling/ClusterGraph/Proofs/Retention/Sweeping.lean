import ClusterGraph.Pipeline.Housekeeping
import ClusterGraph.Proofs.Store.Ownership
import ClusterGraph.Proofs.Store.Unreliable

/-!
# ClusterGraph.Proofs.Retention.Sweeping

**A sweep takes away exactly what other instances of the cluster left over, and counts it.**

The stages overlap: a node that stands for another instance is also one that the instance wrote,
and both are swept by kind before all that is left is swept at once. Still no node is counted
twice, for each stage counts what it takes away itself (`Graph.Sheds`), and none is missed,
for the last stage spares only what nobody left over. What the stages by kind do is of no
consequence, so neither are the kinds nor the failures on the way (`Shared.sweep_exact`).
-/

namespace ClusterGraph

/-- Whether a sweep is to remove the node: `isStaleCluster`, or `isStale` without being an event. -/
def Node.isLeftover (n : Node) (id : Identity) : Bool :=
  n.isStaleCluster id || (!n.hasLabel Label.event && n.isStale id)

namespace Graph

/-! ## Removals in a row -/

/-- The nodes that two removals count in turn are as many as those that satisfy either test. -/
theorem countWhere_add_countWhere_removeWhere (g : Graph) (first second : Node → Bool) :
    g.countWhere first + (g.removeWhere first).countWhere second
      = g.countWhere fun n => first n || second n := by
  unfold countWhere nodesWhere removeWhere
  induction g.nodes with
  | nil => rfl
  | cons n rest ih =>
      cases hfirst : first n <;> cases hsecond : second n <;>
        simp [hfirst, hsecond] at ih ⊢ <;> omega

/-- What `removeWhere` leaves depends on its test at the nodes of the graph only. -/
theorem removeWhere_congr {g : Graph} {test test' : Node → Bool}
    (h : ∀ n ∈ g.nodes, test n = test' n) : g.removeWhere test = g.removeWhere test' := by
  have hgone : g.nodesWhere test = g.nodesWhere test' := List.filter_congr h
  have hleft : (g.nodes.filter fun n => !test n) = g.nodes.filter fun n => !test' n :=
    List.filter_congr fun n hn => congrArg (! ·) (h n hn)
  unfold removeWhere
  rw [hgone, hleft]

/-! ## Stages -/

/-- The graph `g` loses the nodes of some test, their number is counted, and all of them are
`allowed` to go. -/
inductive Sheds (allowed : Node → Bool) (g : Graph) : Nat → Graph → Prop where
  | remove {test : Node → Bool} (h : ∀ n ∈ g.nodes, test n = true → allowed n = true) :
      Sheds allowed g (g.countWhere test) (g.removeWhere test)

namespace Sheds

variable {allowed : Node → Bool} {g h k : Graph} {m n : Nat}

theorem none (allowed : Node → Bool) (g : Graph) : Sheds allowed g 0 g := by
  have hremove := @Sheds.remove allowed g (fun _ => false) (by simp)
  have hcount : g.countWhere (fun _ => false) = 0 := by simp [countWhere, nodesWhere]
  rwa [hcount, removeWhere_false] at hremove

theorem trans (first : Sheds allowed g m h) (second : Sheds allowed h n k) :
    Sheds allowed g (m + n) k := by
  obtain ⟨hfirst⟩ := first
  obtain ⟨hsecond⟩ := second
  rw [countWhere_add_countWhere_removeWhere, removeWhere_removeWhere]
  refine .remove fun n hn htest => ?_
  rename_i test test'
  cases h : test n with
  | true => exact hfirst n hn h
  | false =>
      rw [h, Bool.false_or] at htest
      exact hsecond n (mem_nodes_removeWhere.mpr ⟨hn, h⟩) htest

theorem mem (sheds : Sheds allowed g m h) {node : Node} (hn : node ∈ h.nodes) :
    node ∈ g.nodes := by
  obtain ⟨-⟩ := sheds
  exact (mem_nodes_removeWhere.mp hn).1

/-- If no node of `h` is `allowed` to go, `Sheds` has removed and counted all of those that were. -/
theorem exact (sheds : Sheds allowed g m h) (hdone : ∀ n ∈ h.nodes, allowed n = false) :
    m = g.countWhere allowed ∧ h = g.removeWhere allowed := by
  obtain ⟨hallowed⟩ := sheds
  rename_i test
  have heq : ∀ n ∈ g.nodes, test n = allowed n := by
    intro n hn
    cases htest : test n with
    | true => exact (hallowed n hn htest).symm
    | false => exact (hdone n (mem_nodes_removeWhere.mpr ⟨hn, htest⟩)).symm
  exact ⟨congrArg List.length (List.filter_congr heq), removeWhere_congr heq⟩

end Sheds

/-- A node that has the label `Event` has no other label. -/
def EventsApart (g : Graph) : Prop :=
  ∀ n ∈ g.nodes, n.hasLabel Label.event = true → ∀ label ∈ n.labels, label = Label.event

theorem EventsApart.of_sheds {allowed : Node → Bool} {g h : Graph} {n : Nat}
    (hg : g.EventsApart) (sheds : Sheds allowed g n h) : h.EventsApart :=
  fun n hn => hg n (sheds.mem hn)

/-- Under `EventsApart`, a node that `isStale` and has a label other than `Event` is a leftover. -/
theorem EventsApart.isLeftover {g : Graph} (hg : g.EventsApart) {id : Identity} {label : String}
    (hlabel : label ≠ Label.event) {n : Node} (hn : n ∈ g.nodes)
    (h : (n.hasLabel label && n.isStale id) = true) : n.isLeftover id = true := by
  rw [Bool.and_eq_true] at h
  have hevent : n.hasLabel Label.event = false := by
    rw [Bool.eq_false_iff]
    intro hevent
    exact hlabel (hg n hn hevent label (List.contains_iff_mem.mp h.1))
  unfold Node.isLeftover
  rw [hevent, h.2]
  simp

end Graph

/-! ## Stages on a store -/

namespace UnreliableStore

/-- The store is `writable`, and `failure?` lets both `.sweepClusters` and `.sweepAll` through. A
`.sweepLabel` may fail. -/
structure Sweepable (s : UnreliableStore) (id : Identity) : Prop where
  writable : s.store.writable = true
  clusters : ∀ made, s.failure? made (.sweepClusters id) = none
  all : ∀ made, s.failure? made (.sweepAll id) = none

variable {id : Identity} {s : UnreliableStore}

theorem Sweepable.perform (hs : s.Sweepable id) (c : Call) :
    (UnreliableStore.perform c s).2.Sweepable id := by
  refine ⟨?_, ?_, ?_⟩
  · unfold UnreliableStore.perform
    split
    · exact hs.writable
    · exact MemoryStore.writable_perform c hs.writable
  · rw [failure?_perform]
    exact hs.clusters
  · rw [failure?_perform]
    exact hs.all

theorem Sweepable.perform_clusters (hs : s.Sweepable id) :
    (UnreliableStore.perform (.sweepClusters id) s).1
        = .ok (s.graph.countWhere (·.isStaleCluster id))
      ∧ (UnreliableStore.perform (.sweepClusters id) s).2.graph
        = s.graph.removeWhere (·.isStaleCluster id) := by
  rw [perform_of_success (hs.clusters _), MemoryStore.perform_of_writable hs.writable]
  exact ⟨rfl, rfl⟩

theorem Sweepable.perform_all (hs : s.Sweepable id) :
    (UnreliableStore.perform (.sweepAll id) s).1
        = .ok (s.graph.countWhere fun n => !n.hasLabel Label.event && n.isStale id)
      ∧ (UnreliableStore.perform (.sweepAll id) s).2.graph
        = s.graph.removeWhere fun n => !n.hasLabel Label.event && n.isStale id := by
  rw [perform_of_success (hs.all _), MemoryStore.perform_of_writable hs.writable]
  exact ⟨rfl, rfl⟩

/-- Running `perform` on a `.sweepLabel` only removes leftovers and answers with their number, or
fails and removes none. -/
theorem Sweepable.perform_label (hs : s.Sweepable id) (hevents : s.graph.EventsApart)
    {label : String} (hlabel : label ≠ Label.event) :
    Graph.Sheds (·.isLeftover id) s.graph
      (match (UnreliableStore.perform (.sweepLabel label id) s).1 with
        | .ok n => n
        | .error _ => 0)
      (UnreliableStore.perform (.sweepLabel label id) s).2.graph := by
  cases hfailure : s.failure? s.made (.sweepLabel label id) with
  | some e =>
      unfold UnreliableStore.perform
      rw [hfailure]
      exact .none _ _
  | none =>
      rw [perform_of_success hfailure, MemoryStore.perform_of_writable hs.writable]
      simp only [MemoryStore.answer, if_neg hlabel]
      exact .remove fun n hn => hevents.isLeftover hlabel hn

end UnreliableStore

namespace Retention

variable {id : Identity} {s : UnreliableStore}

/-- Running `sweepKinds` only removes leftovers, and its result is their number. The store stays
`Sweepable`. -/
theorem sheds_sweepKinds (hs : s.Sweepable id) (hevents : s.graph.EventsApart)
    (kinds : List String) :
    Graph.Sheds (·.isLeftover id) s.graph
        ((sweepKinds id kinds).run UnreliableStore.perform s).1
        ((sweepKinds id kinds).run UnreliableStore.perform s).2.graph
      ∧ ((sweepKinds id kinds).run UnreliableStore.perform s).2.Sweepable id := by
  induction kinds generalizing s with
  | nil => exact ⟨.none _ _, hs⟩
  | cons kind rest ih =>
      rw [sweepKinds]
      split
      · exact ih hs hevents
      · rename_i hkind
        have hstage := hs.perform_label hevents hkind
        obtain ⟨hrest, hswept⟩ := ih (hs.perform _) (hevents.of_sheds hstage)
        rw [Plan.run_call, Plan.run_bind]
        exact ⟨hstage.trans hrest, hswept⟩

/-- Running `sweep` on a `Sweepable` store ends with `.ok`, removes the nodes that satisfy
`isLeftover` and no others, and its `report.total` is their number. -/
theorem run_sweep (hs : s.Sweepable id) (hevents : s.graph.EventsApart) (kinds : List String) :
    ∃ report s', (sweep id kinds).run UnreliableStore.perform s = (.ok report, s')
      ∧ report.total = s.graph.countWhere (·.isLeftover id)
      ∧ s'.graph = s.graph.removeWhere (·.isLeftover id)
      ∧ s'.Sweepable id := by
  obtain ⟨hclusters, hgraph⟩ := hs.perform_clusters
  have hfirst : Graph.Sheds (·.isLeftover id) s.graph
      (s.graph.countWhere (·.isStaleCluster id))
      (UnreliableStore.perform (.sweepClusters id) s).2.graph := by
    rw [hgraph]
    exact .remove fun n _ h => by simp [Node.isLeftover, h]
  obtain ⟨hkinds, hswept⟩ :=
    sheds_sweepKinds (hs.perform (.sweepClusters id)) (hevents.of_sheds hfirst) kinds
  have hsofar := hfirst.trans hkinds
  obtain ⟨resources, s', hmiddle⟩ : ∃ resources s', (sweepKinds id kinds).run
      UnreliableStore.perform (UnreliableStore.perform (.sweepClusters id) s).2
        = (resources, s') := ⟨_, _, rfl⟩
  rw [hmiddle] at hkinds hswept hsofar
  obtain ⟨hall, hlast⟩ := hswept.perform_all
  have hrest : Graph.Sheds (·.isLeftover id) s'.graph
      (s'.graph.countWhere fun n => !n.hasLabel Label.event && n.isStale id)
      (UnreliableStore.perform (.sweepAll id) s').2.graph := by
    rw [hlast]
    exact .remove fun n _ h => by simp only [Node.isLeftover, h, Bool.or_true]
  -- No cluster node of another instance outlasts the first stage, and none but events the last.
  have hdone : ∀ n ∈ (UnreliableStore.perform (.sweepAll id) s').2.graph.nodes,
      n.isLeftover id = false := by
    intro n hn
    have hcluster : n.isStaleCluster id = false := by
      have hearly := hkinds.mem (hrest.mem hn)
      rw [hgraph] at hearly
      exact (Graph.mem_nodes_removeWhere.mp hearly).2
    rw [hlast] at hn
    unfold Node.isLeftover
    rw [hcluster, (Graph.mem_nodes_removeWhere.mp hn).2, Bool.or_false]
  obtain ⟨hcount, hremoved⟩ := (hsofar.trans hrest).exact hdone
  refine ⟨⟨_, resources, _⟩, (UnreliableStore.perform (.sweepAll id) s').2, ?_, hcount, hremoved,
    hswept.perform _⟩
  rw [sweep, Plan.run_call, hclusters]
  simp only [Plan.run_bind, hmiddle, Plan.run_call, hall]
  rfl

end Retention

namespace Shared

variable {id : Identity} {s : Shared UnreliableStore}

/-- A `sweep` of a `Sweepable` store removes just the nodes that satisfy `isLeftover`, whatever
`kinds` it is given and whichever of their stages fail. Its report and the metric under `instance`
count them, and a second `sweep` removes none. -/
theorem sweep_exact (hstore : s.store.Sweepable id) (hevents : s.store.graph.EventsApart)
    (kinds again : List String) :
    let swept := (s.sweep UnreliableStore.perform id kinds).2
    ∃ report, (s.sweep UnreliableStore.perform id kinds).1 = .ok report
      ∧ swept.store.graph = s.store.graph.removeWhere (·.isLeftover id)
      ∧ report.total = s.store.graph.countWhere (·.isLeftover id)
      ∧ swept.metrics.swept.find? ["instance"]
        = some ((s.metrics.swept.find? ["instance"]).getD 0 + report.total)
      ∧ ∃ second, (swept.sweep UnreliableStore.perform id again).1 = .ok second
        ∧ second.total = 0
        ∧ (swept.sweep UnreliableStore.perform id again).2.store.graph = swept.store.graph := by
  obtain ⟨report, store, hrun, htotal, hgraph, hswept⟩ := Retention.run_sweep hstore hevents kinds
  have hsweep : s.sweep UnreliableStore.perform id kinds
      = (.ok report, { s with
          store, metrics := s.metrics.recordSwept "instance" report.total }) := by
    unfold Shared.sweep carryOut
    rw [hrun]
    rfl
  have hleft : store.graph.EventsApart := by
    rw [hgraph]
    exact fun n hn => hevents n (Graph.mem_nodes_removeWhere.mp hn).1
  obtain ⟨second, store', hrun', htotal', hgraph', -⟩ := Retention.run_sweep hswept hleft again
  have hagain : (s.sweep UnreliableStore.perform id kinds).2.sweep UnreliableStore.perform id again
      = (.ok second, { s with
          store := store'
          metrics := (s.metrics.recordSwept "instance" report.total).recordSwept "instance"
            second.total }) := by
    rw [hsweep]
    unfold Shared.sweep carryOut
    rw [hrun']
    rfl
  dsimp only
  rw [hagain, hsweep]
  refine ⟨report, rfl, hgraph, htotal, ?_, second, rfl, ?_, ?_⟩
  · exact (Samples.find?_add _ _ _ _).trans (if_pos rfl)
  · rw [htotal', hgraph, Graph.countWhere_removeWhere]
  · rw [hgraph', hgraph, Graph.removeWhere_removeWhere]
    simp only [Bool.or_self]

/-- Three nodes of the instance `old` of the cluster `shop`, one of `new`, and one of the cluster
`bank`, with three edges. -/
def twoClusters : Graph :=
  let entry (id : Nat) (label cluster hash : String) : Node :=
    ⟨id, [label], Dict.ofList [(Key.name, .text cluster), (Key.clusterName, .text cluster),
      (Key.instanceHash, .text hash)]⟩
  ⟨5, [entry 0 Label.cluster "shop" "old", entry 1 "Pod" "shop" "old",
      entry 2 Label.event "shop" "old", entry 3 "Pod" "shop" "new", entry 4 "Pod" "bank" "old"],
    [⟨2, .involves, 1⟩, ⟨2, .involves, 3⟩, ⟨3, .uses, 4⟩]⟩

/-- A store on `twoClusters` whose second call fails if it is a `.sweepLabel`. -/
def failingOnce : Shared UnreliableStore :=
  .ofRegistry (.ofStore (.ofGraph twoClusters) fun made c =>
      match made, c with
      | 1, .sweepLabel _ _ => some .unavailable
      | _, _ => none)
    default default ⟨0, 0⟩

/-- Instance of `sweep_exact`: the stage of the first kind fails, kinds are listed twice, are
unknown or are `Event`, and two nodes go. -/
theorem sweep_exact_twoClusters :
    ∃ report, (failingOnce.sweep UnreliableStore.perform ⟨"shop", "new"⟩
        ["Pod", "Gadget", "Event", "Pod"]).1 = .ok report
      ∧ report.total = 2
      ∧ (failingOnce.sweep UnreliableStore.perform ⟨"shop", "new"⟩
          ["Pod", "Gadget", "Event", "Pod"]).2.store.graph
        = ⟨5, twoClusters.nodes.drop 2, [⟨2, .involves, 3⟩, ⟨3, .uses, 4⟩]⟩ := by
  have hstore : failingOnce.store.Sweepable ⟨"shop", "new"⟩ := by
    refine ⟨rfl, fun made => ?_, fun made => ?_⟩
    · rcases made with _ | _ | made <;> rfl
    · rcases made with _ | _ | made <;> rfl
  have hevents : failingOnce.store.graph.EventsApart := by
    unfold Graph.EventsApart
    decide
  obtain ⟨report, hreport, hgraph, htotal, -⟩ :=
    sweep_exact hstore hevents ["Pod", "Gadget", "Event", "Pod"] []
  refine ⟨report, hreport, htotal.trans (by decide +kernel), hgraph.trans (by decide +kernel)⟩

end Shared
end ClusterGraph
