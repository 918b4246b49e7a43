import ClusterGraph.Proofs.Projection.Anchoring
import ClusterGraph.Proofs.Projection.Updating
import ClusterGraph.Proofs.Store.Recording

/-!
# ClusterGraph.Proofs.Projection.Enduring

**A relationship that cannot be made costs that relationship and nothing else.**

Once the node of an object is written, whatever fails is passed over. A link that fails holds up no
other link: the same ones are tried in any case (`Sync.tried_linkAll`). A list that fails costs the
selections that would have been found in it (`Sync.tried_relate`), and no others are made from a
list. What was made can be read off the record of the calls (`Graph.adds_foldl_replay`).
-/

namespace ClusterGraph

/-! ## What a record says -/

namespace CallRecord

/-- The link that the call was to make, if it was a `link`. -/
def link? (r : CallRecord) : Option Link :=
  match r.call with
  | .link source rel target => some ⟨source, rel, target⟩
  | _ => none

/-- Whether the call was a `list` that failed. -/
def isLostList (r : CallRecord) : Bool :=
  match r.call with
  | .list _ _ => !r.succeeded
  | _ => false

/-- The links of all `link` calls in `log`. -/
def tried (log : List CallRecord) : List Link :=
  log.filterMap link?

/-- The links of those `link` calls in `log` that succeeded. -/
def made (log : List CallRecord) : List Link :=
  tried (log.filter succeeded)

theorem tried_append (first second : List CallRecord) :
    tried (first ++ second) = tried first ++ tried second :=
  List.filterMap_append

theorem made_cons (r : CallRecord) (log : List CallRecord) :
    made (r :: log) = made [r] ++ made log := by
  unfold made
  rw [← tried_append, ← List.filter_append]
  rfl

end CallRecord

/-! ## What a record does to a graph -/

namespace Graph

/-- Graph `h` has the nodes of `g`, and its edges are those of `g` and those that `links` make among
these nodes. -/
structure Adds (links : List Link) (g h : Graph) : Prop where
  nodes : h.nodes = g.nodes
  nextId : h.nextId = g.nextId
  edges : ∀ e, e ∈ h.edges ↔ e ∈ g.edges
    ∨ ∃ l ∈ links, e ∈ edgesBetween (g.nodesAt l.source) l.rel (g.nodesAt l.target)

theorem Adds.refl (g : Graph) : Adds [] g g :=
  ⟨rfl, rfl, fun e => by simp⟩

theorem Adds.link (l : Link) (g : Graph) : Adds [l] g (g.link l.source l.rel l.target) :=
  ⟨rfl, rfl, fun e => by simp [mem_edges_link]⟩

theorem Adds.trans {first second : List Link} {g h i : Graph} (hfirst : Adds first g h)
    (hsecond : Adds second h i) : Adds (first ++ second) g i := by
  refine ⟨hsecond.nodes.trans hfirst.nodes, hsecond.nextId.trans hfirst.nextId, fun e => ?_⟩
  rw [hsecond.edges, hfirst.edges, or_assoc]
  simp only [nodesAt_congr hfirst.nodes, List.mem_append, or_and_right, exists_or]

/-- A record of a call that keeps nodes `Adds` the link that was made, if one was. -/
theorem adds_replay {r : CallRecord} (hr : r.call.keepsNodes = true) (g : Graph) :
    Adds (CallRecord.made [r]) g (r.replay g) := by
  obtain ⟨c, answer⟩ := r
  cases answer with
  | error e => exact .refl g
  | ok a =>
      cases c with
      | link source rel target => exact .link ⟨source, rel, target⟩ g
      | list label filters => exact .refl g
      | count id => exact .refl g
      | health => exact .refl g
      | _ => cases hr

/-- Records of calls that keep nodes add the links of those that succeeded. -/
theorem adds_foldl_replay {log : List CallRecord} (hlog : ∀ r ∈ log, r.call.keepsNodes = true)
    (g : Graph) : Adds (CallRecord.made log) g (log.foldl (fun g r => r.replay g) g) := by
  induction log generalizing g with
  | nil => exact .refl g
  | cons r rest ih =>
      rw [CallRecord.made_cons]
      exact (adds_replay (hlog r List.mem_cons_self) g).trans
        (ih (fun q hq => hlog q (List.mem_cons_of_mem _ hq)) _)

end Graph

/-- A plan that keeps nodes adds to the graph of an unreliable store just the links of its calls
that succeed. -/
theorem Plan.KeepsNodes.adds {α : Type} {p : Plan α} (hp : p.KeepsNodes) (s : UnreliableStore) :
    Graph.Adds (CallRecord.made (p.trace UnreliableStore.perform s)) s.graph
      (p.run UnreliableStore.perform s).2.graph := by
  rw [graph_run]
  exact Graph.adds_foldl_replay (fun r hr => hp r.call (calls_of_mem_trace hr)) s.graph

/-! ## What is tried -/

namespace Sync

section Tried

variable {σ : Type} (perform : Plan.Performer σ)

/-- All links of `linkAll` are tried, whatever the answers. -/
theorem tried_linkAll (links : List Link) (s : σ) :
    CallRecord.tried ((linkAll links).trace perform s) = links := by
  induction links generalizing s with
  | nil => rfl
  | cons l rest ih => exact congrArg (l :: ·) (ih _)

theorem not_isLostList_linkAll (links : List Link) (s : σ) :
    ((linkAll links).trace perform s).any CallRecord.isLostList = false := by
  induction links generalizing s with
  | nil => rfl
  | cons l rest ih => exact ih _

end Tried

variable (w : Writer) {k : Kind}

/-- The links that `select` tries: all that the search finds in the graph, or none if its list
failed. -/
theorem tried_select (search : Search) (s : UnreliableStore) :
    CallRecord.tried ((select w search).trace UnreliableStore.perform s)
      = if ((select w search).trace UnreliableStore.perform s).any CallRecord.isLostList then []
        else search.found w s.graph.nodes := by
  unfold select
  rw [Plan.trace_call]
  cases hanswer : (UnreliableStore.perform (search.call w) s).1 with
  | error e => rfl
  | ok listed =>
      have hlisted : listed
          = (s.graph.nodes.filter (search.isCandidate w)).map Node.properties := by
        rw [UnreliableStore.perform_of_ok hanswer, MemoryStore.perform_search] at hanswer
        exact (Except.ok.inj hanswer).symm
      rw [List.any_cons]
      show CallRecord.tried ((linkAll (listed.filterMap search.link?)).trace _ _)
        = if (false || ((linkAll (listed.filterMap search.link?)).trace _ _).any
            CallRecord.isLostList) = true then [] else _
      rw [tried_linkAll, not_isLostList_linkAll, hlisted]
      rfl

/-- The links that `relate` tries: all of `ObjectOf.relations`, or only `ObjectOf.links` if the list
failed. -/
theorem tried_relate (o : ObjectOf k) (s : UnreliableStore) :
    CallRecord.tried ((relate w k o).trace UnreliableStore.perform s)
      = if ((relate w k o).trace UnreliableStore.perform s).any CallRecord.isLostList then
          ObjectOf.links w (self k (ObjectOf.objectMeta k o)) k o
        else ObjectOf.relations w k o s.graph.nodes := by
  -- The links before the search touch no node, so it looks at those that were there before them.
  have hnodes := ((keepsNodes_linkAll
    (ObjectOf.links w (self k (ObjectOf.objectMeta k o)) k o)).adds s).nodes
  unfold ObjectOf.relations
  show CallRecord.tried (((linkAll _).bind _).trace _ _)
    = if (((linkAll _).bind _).trace _ _).any _ = true then _ else _
  rw [Plan.trace_bind, CallRecord.tried_append, List.any_append, tried_linkAll,
    not_isLostList_linkAll, Bool.false_or]
  cases ObjectOf.search? (self k (ObjectOf.objectMeta k o)) k o with
  | none =>
      show _ ++ [] = if false = true then _ else _ ++ []
      rw [if_neg Bool.false_ne_true]
  | some search =>
      show _ ++ CallRecord.tried ((select w search).trace _ _)
        = if ((select w search).trace _ _).any _ = true then _ else _ ++ search.found w _
      rw [tried_select, hnodes]
      split
      · exact List.append_nil _
      · rfl

/-- In a store in memory no list fails, whether it can be written or not. -/
theorem not_isLostList_memory {α : Type} (p : Plan α) (s : MemoryStore) :
    (p.trace MemoryStore.perform s).any CallRecord.isLostList = false := by
  induction p generalizing s with
  | done a => rfl
  | call c next ih =>
      have hcall : CallRecord.isLostList ⟨c, (MemoryStore.perform c s).1⟩ = false := by
        cases c <;> rfl
      rw [Plan.trace_call, List.any_cons, hcall, ih, Bool.or_false]

/-- Running `create` once the upsert has succeeded: the result is a success, and the links that are
tried are those of `tried_relate`. -/
theorem run_create_of_upsert {now : Instant} {raw : RawObject} {o : ObjectOf k}
    {fields : Dict Json} {s : UnreliableStore} (hconvert : raw.convert k k.name = .ok o)
    (hfields : properties w now k o = .ok fields)
    (hupsert : (UnreliableStore.perform (.upsert .direct [k.name] fields Key.uid) s).1 = .ok ()) :
    let written := (UnreliableStore.perform (.upsert .direct [k.name] fields Key.uid) s).2.graph
    let run := (create w now k raw).run UnreliableStore.perform s
    let calls := (create w now k raw).trace UnreliableStore.perform s
    run.1 = .ok ()
      ∧ Graph.Adds (CallRecord.made calls) written run.2.graph
      ∧ CallRecord.tried calls
        = if calls.any CallRecord.isLostList then
            ObjectOf.links w (self k (ObjectOf.objectMeta k o)) k o
          else ObjectOf.relations w k o written.nodes := by
  rw [create_of_properties hconvert hfields, Plan.run_call, Plan.trace_call, hupsert]
  have hconclude : conclude w k o (.ok ()) = (relate w k o).bind fun _ => .done (.ok ()) := rfl
  rw [hconclude, Plan.run_bind, Plan.trace_bind, Plan.trace_done, List.append_nil]
  exact ⟨rfl, (keepsNodes_relate w k o).adds _, tried_relate w o _⟩

/-- The relations that are not `selects` are `ObjectOf.links`. -/
theorem filter_relations (o : ObjectOf k) (nodes : List Node) :
    (ObjectOf.relations w k o nodes).filter (·.rel ≠ .selects)
      = ObjectOf.links w (self k (ObjectOf.objectMeta k o)) k o := by
  have hlinks : (ObjectOf.links w (self k (ObjectOf.objectMeta k o)) k o).filter
      (·.rel ≠ .selects) = ObjectOf.links w (self k (ObjectOf.objectMeta k o)) k o :=
    List.filter_eq_self.mpr fun l hl => decide_eq_true (ObjectOf.isDirect_links k o l hl).rel_ne
  unfold ObjectOf.relations
  rw [List.filter_append, hlinks]
  cases hsearch : ObjectOf.search? (self k (ObjectOf.objectMeta k o)) k o with
  | none => exact List.append_nil _
  | some search =>
      have hfound : (search.found w nodes).filter (·.rel ≠ .selects) = [] := by
        refine List.filter_eq_nil_iff.mpr fun l hl => ?_
        obtain ⟨n, -, -, hl⟩ := Search.mem_found.mp hl
        simp [(ObjectOf.isSelection_of_search? hsearch hl).rel_eq]
      show _ ++ (search.found w nodes).filter (·.rel ≠ .selects) = _
      rw [hfound, List.append_nil]

/-- Failures of single calls, for any store that may fail. If the object is read and its upsert
succeeds, `create` ends with a success whatever fails after it. The nodes are those of a run without
failures, the edges are those of the calls that did not fail, and the calls are those of such a run,
less the `selects` to be found in a list that failed. -/
theorem create_isolates_failures (now : Instant) {raw : RawObject} {o : ObjectOf k}
    {fields : Dict Json} {s : UnreliableStore} (hconvert : raw.convert k k.name = .ok o)
    (hfields : properties w now k o = .ok fields)
    (hupsert : (UnreliableStore.perform (.upsert .direct [k.name] fields Key.uid) s).1 = .ok ()) :
    let run := (create w now k raw).run UnreliableStore.perform s
    let calls := (create w now k raw).trace UnreliableStore.perform s
    let relied := (create w now k raw).run MemoryStore.perform s.store
    let reliedCalls := (create w now k raw).trace MemoryStore.perform s.store
    run.1 = .ok ()
      ∧ run.2.graph.nodes = relied.2.graph.nodes
      ∧ run.2.graph.nextId = relied.2.graph.nextId
      ∧ (∀ e, e ∈ run.2.graph.edges ↔ e ∈ s.graph.edges
        ∨ ∃ l ∈ CallRecord.made calls, e ∈ Graph.edgesBetween (run.2.graph.nodesAt l.source) l.rel
            (run.2.graph.nodesAt l.target))
      ∧ CallRecord.tried calls
        = if calls.any CallRecord.isLostList then
            (CallRecord.tried reliedCalls).filter (·.rel ≠ .selects)
          else CallRecord.tried reliedCalls := by
  intro run calls relied reliedCalls
  obtain ⟨hanswer, hwritten⟩ := UnreliableStore.perform_relied_of_ok hupsert
  obtain ⟨-, hstore, htrace⟩ := UnreliableStore.run_relied (create w now k raw) s
  obtain ⟨hok, hadds, htried⟩ := run_create_of_upsert w hconvert hfields hupsert
  obtain ⟨-, hadds', htried'⟩ := run_create_of_upsert w hconvert hfields hanswer
  -- From here on both runs make relationships in one graph, the one that the upsert left.
  rw [hwritten] at hadds' htried'
  have hgraph : relied.2.graph
      = ((create w now k raw).run UnreliableStore.perform s.relied).2.graph :=
    congrArg MemoryStore.graph hstore.symm
  have hall : CallRecord.tried reliedCalls = ObjectOf.relations w k o
      (UnreliableStore.perform (.upsert .direct [k.name] fields Key.uid) s).2.graph.nodes := by
    rw [htrace, not_isLostList_memory, if_neg Bool.false_ne_true] at htried'
    exact htried'
  refine ⟨hok, ?_, ?_, fun e => ?_, ?_⟩
  · rw [hgraph, hadds.nodes, hadds'.nodes]
  · rw [hgraph, hadds.nextId, hadds'.nextId]
  · have hnodesAt : ∀ ref, run.2.graph.nodesAt ref
        = (UnreliableStore.perform (.upsert .direct [k.name] fields Key.uid) s).2.graph.nodesAt
            ref := Graph.nodesAt_congr hadds.nodes
    rw [hadds.edges, UnreliableStore.edges_perform_upsert]
    simp only [hnodesAt]
    rfl
  · rw [hall, filter_relations]
    exact htried

/-- A pod of the namespace `shop` on the machine `worker`. -/
def scheduled : PodObject :=
  ⟨⟨some "p", some "web-1", some "shop", some (Dict.ofList [("app", "web")]), none, none, []⟩,
    some ⟨some "worker", none, none, [], [], [], []⟩, none⟩

/-- A store with that machine, the namespace, and a service that selects the pod. It refuses every
call about `refused` (`Call.subject`). -/
def hosting (refused : String) : UnreliableStore :=
  .ofStore (.ofGraph ⟨3, [
      ⟨0, [Kind.node.name], Dict.ofList [(Key.name, .text "worker"), (Key.clusterName, .text "c1")]⟩,
      ⟨1, [Label.namespace_], Dict.ofList [(Key.name, .text "shop"), (Key.clusterName, .text "c1")]⟩,
      ⟨2, [Kind.service.name], Dict.ofList [(Key.uid, .text "s"), (Key.namespace_, .text "shop"),
        (Key.clusterName, .text "c1"), (Key.instanceHash, .text "h1"),
        ("selector", .text (storedTextMap (Dict.ofList [("app", "web")])))]⟩], []⟩)
    fun _ c => if c.subject = refused then some (.refused c.name) else none

/-- The pod is followed in `hosting refused`. -/
def hosted (refused : String) : Except SyncError Unit × UnreliableStore :=
  (create shopWriter ⟨0, 0⟩ .pod (.typed .pod scheduled)).run UnreliableStore.perform
    (hosting refused)

/-- Instances of `create_isolates_failures`: if the call for `scheduledOn` fails, the service is
linked all the same; if the list of services fails, the machine is. -/
theorem create_isolates_failures_pod :
    (hosted "SCHEDULED_ON").1 = .ok ()
      ∧ (hosted "SCHEDULED_ON").2.graph.edges = [⟨3, .belongsTo, 1⟩, ⟨2, .selects, 3⟩]
      ∧ (hosted "Service").1 = .ok ()
      ∧ (hosted "Service").2.graph.edges = [⟨3, .belongsTo, 1⟩, ⟨3, .scheduledOn, 0⟩]
      ∧ (hosted "Service").2.graph.nodes = (hosted "SCHEDULED_ON").2.graph.nodes := by
  have hrefused := fun refused hupsert =>
    @create_isolates_failures shopWriter .pod ⟨0, 0⟩ (.typed .pod scheduled) scheduled _
      (hosting refused) rfl rfl hupsert
  obtain ⟨hmachine, hnodes, -⟩ := hrefused "SCHEDULED_ON" (by decide +kernel)
  obtain ⟨hservice, hnodes', -⟩ := hrefused "Service" (by decide +kernel)
  exact ⟨hmachine, by decide +kernel, hservice, by decide +kernel, hnodes'.trans hnodes.symm⟩

end Sync

end ClusterGraph
