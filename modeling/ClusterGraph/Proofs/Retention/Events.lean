import ClusterGraph.Proofs.Instance.Duties

/-!
# ClusterGraph.Proofs.Retention.Events

**Events leave by retention and in no other way, whatever instances do in turn.**

The kinds that are deleted with their objects are all the others, no sweep is for events, and a
node that is written again keeps its number and its label. So an event that is there before a
duty is there after it (`Call.IsWithin.exists_event`), unless the duty prunes the cluster that
the event tells of and the event was recorded before the cutoff. And since an event is written
without the hash of an instance every time it is written, none ever comes to look like something
that an instance left over (`Ledger.events_expire`).
-/

namespace ClusterGraph

/-! ## Calls that spare events -/

namespace Call

variable {id : Identity} {watched : String → Prop} {c : Call} {g : Graph} {n : Node}

/-- A node that has only the label `Event` outlasts every call that `IsSweep`. -/
theorem IsSweep.mem_event (hc : c.IsSweep id) (hn : n ∈ g.nodes)
    (hlabels : n.labels = [Label.event]) : n ∈ (c.effect g).nodes := by
  have hother : ∀ {label}, label ≠ Label.event → n.hasLabel label = false := fun hlabel =>
    Bool.eq_false_iff.mpr fun h => hlabel ((Node.hasLabel_iff_of_labels_eq hlabels).mp h)
  cases hc with
  | clusters =>
      refine Graph.mem_nodes_removeWhere.mpr ⟨hn, ?_⟩
      unfold Node.isStaleCluster
      rw [hother (by decide), Bool.false_and, Bool.false_and]
  | label label =>
      simp only [effect]
      split
      · exact hn
      · rename_i hlabel
        refine Graph.mem_nodes_removeWhere.mpr ⟨hn, ?_⟩
        rw [hother hlabel, Bool.false_and]
  | all =>
      refine Graph.mem_nodes_removeWhere.mpr ⟨hn, ?_⟩
      rw [Node.hasLabel_of_labels_eq hlabels, Bool.not_true, Bool.false_and]

/-- A node that has only the label `Event` outlasts every call that `IsWithin` the calls of an
instance, under the same labels, perhaps with other properties. -/
theorem IsWithin.exists_event (hc : c.IsWithin id watched) (hn : n ∈ g.nodes)
    (hlabels : n.labels = [Label.event]) :
    ∃ m ∈ (c.effect g).nodes, m.id = n.id ∧ m.labels = n.labels := by
  cases hc with
  | @write mode label uid properties _ huid =>
      simp only [effect, huid]
      rcases Graph.exists_mem_upsert hn with hkept | ⟨-, hwritten⟩
      · exact ⟨n, hkept, rfl, rfl⟩
      · exact ⟨_, hwritten, rfl, rfl⟩
  | @delete k hk uid =>
      refine ⟨n, Graph.mem_nodes_removeWhere.mpr ⟨hn, ?_⟩, rfl, rfl⟩
      refine Bool.eq_false_iff.mpr fun hmeant => hk (Kind.name_injective ?_)
      exact (Node.hasLabel_iff_of_labels_eq hlabels).mp (Node.isMeantBy_uid.mp hmeant).1
  | link => exact ⟨n, hn, rfl, rfl⟩
  | list => exact ⟨n, hn, rfl, rfl⟩
  | sweep hsweep => exact ⟨n, hsweep.mem_event hn hlabels, rfl, rfl⟩

end Call

/-! ## Duties -/

/-- Every duty satisfies `IsAbout` where all objects are allowed. -/
theorem Duty.isAbout_any (t : Duty) : t.IsAbout fun _ => True := by
  cases t with
  | create => exact fun _ _ _ _ => trivial
  | delete => exact fun _ _ => trivial
  | _ => exact trivial

namespace Ledger

variable {ι : Type} {w : ι → Writer} {l : Ledger ι} {n : Node}

/-- A node that has only the label `Event` outlasts `work` on every duty that is not a `.prune`. -/
theorem exists_event_work {turn : ι × Duty} (hturn : ¬turn.2.IsPrune) (hn : n ∈ l.graph.nodes)
    (hlabels : n.labels = [Label.event]) :
    ∃ m ∈ (l.work w turn).graph.nodes, m.id = n.id ∧ m.labels = n.labels := by
  have hcalls : ∀ (c : Call) (r : Ledger ι), (turn.2.plan (w turn.1)).Calls c →
      (∃ m ∈ r.graph.nodes, m.id = n.id ∧ m.labels = n.labels) →
      ∃ m ∈ (performBy turn.1 c r).2.graph.nodes, m.id = n.id ∧ m.labels = n.labels := by
    rintro c r hc ⟨m, hm, hid, hsame⟩
    rcases performBy_cases turn.1 c r with ⟨hgraph, -⟩ | ⟨hgraph, -⟩
    · rw [hgraph]
      exact ⟨m, hm, hid, hsame⟩
    · have hwithin := Duty.isWithin hturn turn.2.isAbout_any hc
      obtain ⟨m', hm', hid', hsame'⟩ := hwithin.exists_event hm (hsame.trans hlabels)
      rw [hgraph]
      exact ⟨m', hm', hid'.trans hid, hsame'.trans hsame⟩
  exact Plan.run_induction hcalls ⟨n, hn, rfl, rfl⟩

/-- Under `work`, a `.prune` removes a node only if the node satisfies `isExpiredEvent` for the
cutoff. -/
theorem mem_work_prune {i : ι} {days : Int} {now : Instant} (hn : n ∈ l.graph.nodes) :
    n ∈ (l.work w (i, .prune days now)).graph.nodes
      ∨ ∃ cutoff, Retention.cutoff? days now = some cutoff
        ∧ n.isExpiredEvent (w i).id.cluster cutoff.format = true := by
  have hcalls : ∀ (c : Call) (r : Ledger ι), ((Duty.prune days now).plan (w i)).Calls c →
      (n ∈ r.graph.nodes ∨ ∃ cutoff, Retention.cutoff? days now = some cutoff
        ∧ n.isExpiredEvent (w i).id.cluster cutoff.format = true) →
      (n ∈ (performBy i c r).2.graph.nodes ∨ ∃ cutoff, Retention.cutoff? days now = some cutoff
        ∧ n.isExpiredEvent (w i).id.cluster cutoff.format = true) := by
    rintro c r hc (hr | hexpired)
    · obtain ⟨cutoff, hcutoff, rfl⟩ := Duty.calls_prune hc
      rcases performBy_cases i (.pruneEvents (w i).id.cluster cutoff) r with
        ⟨hgraph, -⟩ | ⟨hgraph, -⟩
      · rw [hgraph]
        exact .inl hr
      · cases hexpired : n.isExpiredEvent (w i).id.cluster cutoff.format with
        | true => exact .inr ⟨cutoff, hcutoff, hexpired⟩
        | false =>
            rw [hgraph]
            exact .inl (Graph.mem_nodes_removeWhere.mpr ⟨hr, hexpired⟩)
    · exact .inr hexpired
  exact Plan.run_induction hcalls (.inl hn)

/-- In a ledger that `Records` describes, an event with an `author` has no `instanceHash`. -/
theorem Records.instanceHash_event {watched : ι → String → Prop} (h : l.Records w watched)
    (hn : n ∈ l.graph.nodes) (hevent : n.hasLabel Label.event = true)
    (hauthor : l.author n.id ≠ none) : n.properties.find? Key.instanceHash = none := by
  obtain ⟨j, hj⟩ := Option.ne_none_iff_exists'.mp hauthor
  obtain ⟨label, hlabels, hsigned⟩ := (h.recorded n hn j hj).signed
  rw [hsigned.hash, if_pos ((Node.hasLabel_iff_of_labels_eq hlabels).mp hevent).symm]

/-- Let any instances have worked on a graph, with any calls failing, and then one of them works on
`next`. An event of the graph before is still there, unless `next` is a `.prune` by an instance of
its cluster and its `createdAt` is below the cutoff as a text. No event that an instance wrote has
an `instanceHash`. -/
theorem events_expire (w : ι → Writer) {s : UnreliableStore} (hnumbered : s.graph.Numbered)
    (hsingle : s.graph.SingleLabelled) (turns : List (ι × Duty)) (next : ι × Duty) :
    let before := (ofStore s).workAll w turns
    let after := before.work w next
    (∀ n ∈ before.graph.nodes, n.hasLabel Label.event = true →
        (∃ m ∈ after.graph.nodes, m.id = n.id ∧ m.labels = n.labels)
          ∨ ∃ days now cutoff recorded, next.2 = .prune days now
            ∧ Retention.cutoff? days now = some cutoff
            ∧ n.text? Key.clusterName = some (w next.1).id.cluster
            ∧ n.text? Key.createdAt = some recorded ∧ recorded < cutoff.format)
      ∧ ∀ n ∈ after.graph.nodes, n.hasLabel Label.event = true → after.author n.id ≠ none →
          n.properties.find? Key.instanceHash = none := by
  intro before after
  have hbefore : before.Records w fun _ _ => True :=
    (records_ofStore hnumbered hsingle).workAll fun turn _ => turn.2.isAbout_any
  have hafter : after.Records w fun _ _ => True := hbefore.work next.2.isAbout_any
  refine ⟨fun n hn hevent => ?_, fun n hn hevent hauthor =>
    hafter.instanceHash_event hn hevent hauthor⟩
  obtain ⟨label, hlabels⟩ := hbefore.single n hn
  rw [← (Node.hasLabel_iff_of_labels_eq hlabels).mp hevent] at hlabels
  obtain ⟨i, t⟩ := next
  by_cases ht : t.IsPrune
  · cases t with
    | prune days now =>
        refine (mem_work_prune hn).imp (fun hkept => ⟨n, hkept, rfl, rfl⟩) fun hgone => ?_
        obtain ⟨cutoff, hcutoff, hexpired⟩ := hgone
        simp only [Node.isExpiredEvent, Bool.and_eq_true, Node.holdsText, decide_eq_true_eq,
          Option.any_eq_true] at hexpired
        obtain ⟨⟨-, hcluster⟩, recorded, hrecorded, hless⟩ := hexpired
        exact ⟨days, now, cutoff, recorded, rfl, hcutoff, hcluster, hrecorded, hless⟩
    | _ => cases ht
  · exact .inl (exists_event_work ht hn hlabels)

/-- An event is created at second 0, and another one at second 129600, a day and a half later. -/
def twoEvents : List (Unit × Duty) :=
  let event (uid : String) : RawObject :=
    .typed .event ⟨⟨some uid, none, none, none, none, none, []⟩, none, none, none, none, none, none,
      none, none, none, none⟩
  [((), .create ⟨0, 0⟩ .event (event "first")), ((), .create ⟨129600, 0⟩ .event (event "second"))]

def freshStore : UnreliableStore :=
  .ofStore .empty fun _ _ => none

/-- Instance of `events_expire`: pruning at second 172800 with a window of one day removes the first
event and keeps the second. -/
theorem events_expire_daily :
    let w : Unit → Writer := fun _ => ⟨⟨"shop", "new"⟩, OwnerKinds.empty⟩
    let before := (ofStore freshStore).workAll w twoEvents
    let after := before.work w ((), .prune 1 ⟨172800, 0⟩)
    after.graph.nodes.map Node.id = [1]
      ∧ ∃ n ∈ before.graph.nodes, n.id = 0 ∧ ∃ cutoff recorded,
          Retention.cutoff? 1 ⟨172800, 0⟩ = some cutoff
            ∧ n.text? Key.createdAt = some recorded ∧ recorded < cutoff.format := by
  intro w before after
  have hleft : after.graph.nodes.map Node.id = [1] := by decide +kernel
  have hfirst : ∃ n ∈ before.graph.nodes, n.id = 0 ∧ n.hasLabel Label.event = true := by
    decide +kernel
  obtain ⟨n, hn, hid, hevent⟩ := hfirst
  refine ⟨hleft, n, hn, hid, ?_⟩
  have hnumbered : freshStore.graph.Numbered := Graph.numbered_empty
  have hsingle : freshStore.graph.SingleLabelled := fun _ hm => absurd hm List.not_mem_nil
  rcases (events_expire w hnumbered hsingle twoEvents ((), .prune 1 ⟨172800, 0⟩)).1 n hn hevent with
    ⟨m, hm, hmid, -⟩ | ⟨days, now, cutoff, recorded, hduty, hcutoff, -, hrecorded, hless⟩
  · have hmem : m.id ∈ after.graph.nodes.map Node.id := List.mem_map_of_mem hm
    rw [hleft, hmid, hid] at hmem
    cases List.mem_singleton.mp hmem
  · cases hduty
    exact ⟨cutoff, recorded, hcutoff, hrecorded, hless⟩

end Ledger
end ClusterGraph
