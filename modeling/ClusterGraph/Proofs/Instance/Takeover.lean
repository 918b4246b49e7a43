import ClusterGraph.Proofs.Instance.Run
import ClusterGraph.Proofs.Pipeline.Reflecting

/-!
# ClusterGraph.Proofs.Instance.Takeover

**An instance that takes over from others deletes what they left and nothing of its own.**

Three things make this safe, whatever was in the graph and whatever the schedule is. The sweep
waits for the start, which waits for all kinds (`Pipeline.Starting.synced`). All that the
instance asks of the store is its own (`Run.Orderly.isOwn`), so every node that it wrote is signed
from then on, and the sweep passes over signed nodes. And the sweep does not end before its last
call, after which nothing can become stale again (`Graph.ChangesBy.swept`).

`Run.Orderly` is what all runs keep. It is proved part by part: what is about the store follows
from the one call that a step makes, what is about the start from the pipeline, and only what is
about the plans that are under way looks at the phases.
-/

namespace ClusterGraph
namespace Run

variable {w : Writer} {days : Int} {buffer lanes : Nat} {kinds : List Kind}
  {probe : Kind → Except ProbeError Unit} {p q r : Run MemoryStore} {a : RunAction}

/-! ## What all runs keep -/

/-- Invariant of a sweep of which `rest` is left: the start of the pipeline has ended with `synced`,
every call is one of a sweep (`Call.IsSweep`), and either `sweepAll` is still to come
(`Plan.Clears`) or the graph is `Swept`. -/
structure Sweeps (id : Identity) (p : Pipeline MemoryStore)
    (rest : Plan (Except StoreError SweepReport)) : Prop where
  synced : ∃ tasks, p.start = .over (.synced tasks)
  calls : ∀ c, rest.Calls c → c.IsSweep id
  clears : rest.Clears id ∨ p.shared.store.graph.Swept id

/-- Invariant of the plans that are under way: all their calls are the instance's own. -/
structure Plans (id : Identity) (r : Run MemoryStore) : Prop where
  registering : ∀ rest, r.phase = .registering rest → rest.IsOwn id
  /-- The node of the instance is about to be entered, or is there. -/
  entered : (∃ now, r.phase = .registering (Command.register id now))
    ∨ r.store.graph.HasCluster id
  sweeping : ∀ rest, r.phase = .sweeping rest → Sweeps id r.pipeline rest
  pruning : ∀ rest, r.pruning = some rest → rest.IsOwn id
  checking : ∀ rest, r.checking = some rest → rest.IsOwn id

/-- Invariant of an instance. The store can be written, and its graph is numbered and
single-labelled; the start of the pipeline and its workers keep their own invariants
(`Pipeline.Starting`, `Pipeline.FollowsPlans`), and so do the `plans` that are under way. -/
structure Orderly (env : Environment MemoryStore) (id : Identity) (kinds : List Kind)
    (probe : Kind → Except ProbeError Unit) (r : Run MemoryStore) : Prop where
  writable : r.store.writable = true
  numbered : r.store.graph.Numbered
  single : r.store.graph.SingleLabelled
  starting : r.pipeline.Starting kinds probe
  workers : r.pipeline.FollowsPlans env
  plans : r.Plans id

/-- Every call of an action `IsOwn`, by the invariant. -/
theorem Orderly.isOwn (hr : r.Orderly (.inMemory w buffer lanes) w.id kinds probe) {c : Call}
    (hc : r.call? a = some c) : c.IsOwn w.id := by
  cases a with
  | pipeline a =>
      obtain ⟨now, k, n, hcalls⟩ := hr.workers.calls hc
      exact (Follows.followObject w now k n).isOwn c hcalls
  | main =>
      rw [call?] at hc
      split at hc
      · rename_i rest hphase
        exact hr.plans.registering rest hphase c (Plan.calls_of_call? hc)
      · rename_i rest hphase
        exact .sweep ((hr.plans.sweeping rest hphase).calls c (Plan.calls_of_call? hc))
      · cases hc
  | prune =>
      obtain ⟨rest, hrest, hc⟩ := Option.bind_eq_some_iff.mp hc
      exact hr.plans.pruning rest hrest c (Plan.calls_of_call? hc)
  | check =>
      obtain ⟨rest, hrest, hc⟩ := Option.bind_eq_some_iff.mp hc
      exact hr.plans.checking rest hrest c (Plan.calls_of_call? hc)

/-- By the invariant, an action changes the graph as a call of the instance can
(`Graph.ChangesBy`). -/
theorem Orderly.changesBy (hr : r.Orderly (.inMemory w buffer lanes) w.id kinds probe)
    {settings : RunSettings} (h : r.act (.inMemory w buffer lanes) settings a = some q) :
    q.store.writable = true ∧ Graph.ChangesBy w.id r.store.graph q.store.graph := by
  have hstore := store_act h
  cases hcall : r.call? a with
  | none =>
      rw [hcall] at hstore
      have hsame : q.store = r.store := hstore
      rw [hsame]
      exact ⟨hr.writable, .keep r.store.graph.edges⟩
  | some c =>
      rw [hcall] at hstore
      have hperform : q.store = (MemoryStore.perform c r.store).2 := hstore
      rw [hperform]
      exact ⟨MemoryStore.writable_perform c hr.writable,
        MemoryStore.changesBy_perform (hr.isOwn hcall) hr.writable⟩

/-- A step of the sweep removes no node that the instance has signed. -/
theorem Orderly.mem_of_sweeping (hr : r.Orderly (.inMemory w buffer lanes) w.id kinds probe)
    {settings : RunSettings} (h : r.act (.inMemory w buffer lanes) settings .main = some q)
    {rest : Plan (Except StoreError SweepReport)} (hrest : r.phase = .sweeping rest) {n : Node}
    (hn : n ∈ r.store.graph.nodes) (hsigned : n.IsSigned w.id) : n ∈ q.store.graph.nodes := by
  have hstore := store_act h
  rw [call?, hrest] at hstore
  cases hcall : rest.call? with
  | none =>
      simp only [hcall] at hstore
      exact hstore ▸ hn
  | some c =>
      simp only [hcall] at hstore
      have hsweep := (hr.plans.sweeping rest hrest).calls c (Plan.calls_of_call? hcall)
      rw [hstore]
      exact MemoryStore.mem_perform_sweep hsweep hr.writable hn hsigned

/-! ## One step -/

section Step

variable (hr : r.Orderly (.inMemory w buffer lanes) w.id kinds probe)
  (h : r.act (.inMemory w buffer lanes) ⟨w.id, days⟩ a = some q)

include hr h

theorem Orderly.starting_act : q.pipeline.Starting kinds probe := by
  rcases (step_of_act h).pipeline_cases with ⟨b, o, ho, heq⟩ | ⟨-, hstart, hregistry⟩
  · rw [heq]
    exact hr.starting.act ho
  · exact hr.starting.congr hstart (by rw [hregistry]) fun name => .inl (by rw [hregistry])

theorem Orderly.workers_act : q.pipeline.FollowsPlans (.inMemory w buffer lanes) := by
  rcases (step_of_act h).pipeline_cases with ⟨b, o, ho, heq⟩ | ⟨hconsumers, -, -⟩
  · rw [heq]
    exact hr.workers.act ho
  · unfold Pipeline.FollowsPlans
    rw [hconsumers]
    exact hr.workers

/-- Once entered, the cluster node of the instance stays: step lemma of `Plans.entered`. -/
theorem Orderly.entered_act : (∃ now, q.phase = .registering (Command.register w.id now))
    ∨ q.store.graph.HasCluster w.id := by
  rcases hr.plans.entered with ⟨now, hnow⟩ | hcluster
  · cases step_of_act h with
    | @register c next hphase =>
        rw [hnow] at hphase
        cases hphase
        obtain ⟨n, hn, -, hlabels, hproperties⟩ := Graph.exists_upsertId hr.single Label.cluster
          w.id.uid (storedProperties (Command.clusterFields w.id now))
        refine .inr ⟨n, ?_, hlabels, ?_, hproperties ▸ Command.signed_clusterFields w.id now⟩
        · show n ∈ (MemoryStore.perform _ r.store).2.graph.nodes
          rw [Command.perform_register hr.writable]
          exact hn
        · unfold Node.text?
          rw [hproperties, Command.storedUid_clusterFields]
          rfl
    | registered hphase | sweep hphase | sweepCall hphase | swept _ hphase =>
        rw [hnow] at hphase
        cases hphase
    | stop _ _ hidle =>
        simp only [call?, hnow] at hidle
        cases hidle
    | _ => exact .inl ⟨now, hnow⟩
  · exact .inr ((hr.changesBy h).2.hasCluster hcluster)

/-- An action that does not change the phase keeps `Sweeps`. -/
theorem Orderly.sweeps_of_phase_eq (hphase : q.phase = r.phase) :
    ∀ rest, q.phase = .sweeping rest → Sweeps w.id q.pipeline rest := by
  intro rest hrest
  obtain ⟨⟨tasks, hover⟩, hcalls, hclears⟩ := hr.plans.sweeping rest (hphase ▸ hrest)
  refine ⟨⟨tasks, ?_⟩, hcalls, hclears.imp_right ((hr.changesBy h).2.swept hr.single)⟩
  rcases (step_of_act h).pipeline_cases with ⟨b, o, ho, heq⟩ | ⟨-, hstart, -⟩
  · rw [heq]
    exact Pipeline.start_act_of_over ho hover
  · exact hstart.trans hover

theorem Orderly.sweeping_act : ∀ rest, q.phase = .sweeping rest → Sweeps w.id q.pipeline rest := by
  have hsame := hr.sweeps_of_phase_eq h
  have hswept := (hr.changesBy h).2.swept hr.single
  cases step_of_act h with
  | register | registered | swept | stop => exact fun _ => nofun
  | @sweep tasks hphase hstart =>
      rintro _ ⟨⟩
      exact ⟨⟨tasks, hstart⟩, fun c hc => Retention.isSweep_sweep hc,
        .inl (Retention.clears_sweep _ _)⟩
  | @sweepCall c next hphase =>
      rintro _ ⟨⟩
      obtain ⟨⟨tasks, hover⟩, hcalls, hclears⟩ := hr.plans.sweeping _ hphase
      refine ⟨⟨tasks, hover⟩, fun d hd => hcalls d (.later _ hd), ?_⟩
      rcases hclears with hclears | hdone
      · obtain ⟨⟨count, hcount⟩, -⟩ :=
          MemoryStore.perform_sweep (hcalls c .here) hr.writable
        rcases hclears with hlast | hnext
        · subst hlast
          exact .inr (MemoryStore.swept_perform_sweepAll hr.writable)
        · refine .inl ?_
          show (next (MemoryStore.perform c r.store).1).Clears w.id
          rw [hcount]
          exact hnext count
      · exact .inr (hswept hdone)
  | _ => exact hsame rfl

theorem Orderly.plans_act : q.Plans w.id where
  registering := by
    intro rest hrest d hd
    cases step_of_act h with
    | @register c next hphase =>
        cases hrest
        exact hr.plans.registering _ hphase d (.later _ hd)
    | registered | sweep | sweepCall | swept | stop => cases hrest
    | _ => exact hr.plans.registering rest hrest d hd
  entered := hr.entered_act h
  sweeping := hr.sweeping_act h
  pruning := by
    intro rest hrest d hd
    cases step_of_act h with
    | @pruneCall c next hpruning =>
        cases hrest
        exact hr.plans.pruning _ hpruning d (.later _ hd)
    | pruned => cases hrest
    | _ => exact hr.plans.pruning rest hrest d hd
  checking := by
    intro rest hrest d hd
    cases step_of_act h with
    | @checkCall c next hchecking =>
        cases hrest
        exact hr.plans.checking _ hchecking d (.later _ hd)
    | checked => cases hrest
    | _ => exact hr.plans.checking rest hrest d hd

theorem Orderly.act : q.Orderly (.inMemory w buffer lanes) w.id kinds probe :=
  have hstore := hr.changesBy h
  ⟨hstore.1, hstore.2.numbered hr.numbered, hstore.2.singleLabelled hr.single,
    hr.starting_act h, hr.workers_act h, hr.plans_act h⟩

end Step

/-! ## Runs -/

theorem Plans.receive {id : Identity} (hr : r.Plans id) (settings : RunSettings) (e : RunEvent) :
    (r.receive settings e).Plans id := by
  rcases receive_cases settings r e with ⟨b, heq⟩ | heq | heq | heq <;> rw [heq]
  · obtain ⟨-, hstart, -, hstore⟩ := Pipeline.receive_eq r.pipeline b
    refine ⟨hr.registering, ?_, fun rest hrest => ?_, hr.pruning, hr.checking⟩
    · rw [store, hstore]
      exact hr.entered
    · obtain ⟨⟨tasks, hover⟩, hcalls, hclears⟩ := hr.sweeping rest hrest
      exact ⟨⟨tasks, hstart.trans hover⟩, hcalls, by rwa [hstore]⟩
  · exact hr
  · refine ⟨hr.registering, hr.entered, hr.sweeping, ?_, hr.checking⟩
    rintro _ ⟨⟩
    exact Retention.isOwn_prune id _ _ _
  · refine ⟨hr.registering, hr.entered, hr.sweeping, hr.pruning, ?_⟩
    rintro _ ⟨⟩ c hc
    cases hc with
    | here => exact .keeps rfl
    | later answer hc => exact absurd hc Plan.not_calls_done

theorem Orderly.receive {env : Environment MemoryStore} {id : Identity}
    (hr : r.Orderly env id kinds probe) (settings : RunSettings) (e : RunEvent) :
    (r.receive settings e).Orderly env id kinds probe := by
  have hpipeline : (r.receive settings e).pipeline.Starting kinds probe
      ∧ (r.receive settings e).pipeline.FollowsPlans env := by
    rcases receive_cases settings r e with ⟨b, heq⟩ | heq | heq | heq <;> rw [heq]
    · exact ⟨hr.starting.receive b, hr.workers.receive b⟩
    all_goals exact ⟨hr.starting, hr.workers⟩
  have hstore := store_receive settings r e
  refine ⟨?_, ?_, ?_, hpipeline.1, hpipeline.2, hr.plans.receive settings e⟩ <;> rw [hstore]
  · exact hr.writable
  · exact hr.numbered
  · exact hr.single

/-- The invariant holds when an instance begins with a store that can be written. -/
theorem orderly_begin (env : Environment MemoryStore) (settings : RunSettings)
    (probe : Kind → Except ProbeError Unit) {s : Shared MemoryStore}
    (hwritable : s.store.writable = true) (hnumbered : s.store.graph.Numbered)
    (hsingle : s.store.graph.SingleLabelled) :
    (begin settings (Pipeline.begin s probe)).Orderly env settings.id s.registry.kinds probe where
  writable := hwritable
  numbered := hnumbered
  single := hsingle
  starting := Pipeline.starting_begin s probe
  workers := fun _ hc => absurd hc List.not_mem_nil
  plans := {
    registering := by
      rintro _ ⟨⟩
      exact Command.isOwn_register
    entered := .inl ⟨_, rfl⟩
    sweeping := fun _ => nofun
    pruning := fun _ => nofun
    checking := fun _ => nofun }

theorem Steps.orderly (h : Steps (.inMemory w buffer lanes) ⟨w.id, days⟩ p q)
    (hp : p.Orderly (.inMemory w buffer lanes) w.id kinds probe) :
    q.Orderly (.inMemory w buffer lanes) w.id kinds probe := by
  induction h with
  | refl => exact hp
  | act _ a ha ih => exact ih.act ha
  | receive _ e ih => exact ih.receive _ e

/-- Induction over runs of an instance: what `Graph.ChangesBy` keeps of a graph holds at the end if
it holds at the beginning. -/
theorem Steps.graph_induction {P : Graph → Prop}
    (hkeep : ∀ {g g'}, Graph.ChangesBy w.id g g' → g.SingleLabelled → P g → P g')
    (h : Steps (.inMemory w buffer lanes) ⟨w.id, days⟩ p q)
    (hp : p.Orderly (.inMemory w buffer lanes) w.id kinds probe) (hP : P p.store.graph) :
    P q.store.graph := by
  induction h with
  | refl => exact hP
  | act h a ha ih =>
      have hr := h.orderly hp
      exact hkeep (hr.changesBy ha).2 hr.single ih
  | receive h e ih =>
      rw [store_receive]
      exact ih

/-! ## What the instance wrote -/

/-- The number of the node that an action writes, if its call is an upsert: that of the node it
finds, or `nextId`. -/
def writes? (r : Run MemoryStore) (a : RunAction) : Option Nat :=
  match r.call? a with
  | some (.upsert _ labels properties key) =>
      ((storedProperties properties).find? key).map (r.store.graph.upsertId labels key)
  | _ => none

/-- Between `p` and `q`, some action wrote the node with the number `i`. -/
def HasWritten (env : Environment MemoryStore) (settings : RunSettings) (p : Run MemoryStore)
    (i : Nat) (q : Run MemoryStore) : Prop :=
  ∃ before a after, Steps env settings p before ∧ before.writes? a = some i
    ∧ before.act env settings a = some after ∧ Steps env settings after q

/-- The node that an action writes is signed by the instance. -/
theorem Orderly.signed_of_writes (hr : r.Orderly (.inMemory w buffer lanes) w.id kinds probe)
    {i : Nat} (hwrites : r.writes? a = some i)
    (h : r.act (.inMemory w buffer lanes) ⟨w.id, days⟩ a = some q) :
    ∀ n ∈ q.store.graph.nodes, n.id = i → n.IsSigned w.id := by
  unfold writes? at hwrites
  split at hwrites
  case h_2 => cases hwrites
  rename_i mode labels properties key hcall
  obtain ⟨value, hvalue, rfl⟩ := Option.map_eq_some_iff.mp hwrites
  have hstore := store_act h
  rw [hcall] at hstore
  intro n hn hid
  cases hr.isOwn hcall with
  | @upsert _ label uid _ hlabel huid hsigned =>
      have hgraph : q.store.graph = r.store.graph.upsert [label] Key.uid (.text uid)
          (storedProperties properties) :=
        (congrArg MemoryStore.graph hstore).trans
          (MemoryStore.graph_perform_upsert hlabel mode huid hr.writable)
      rw [hgraph] at hn
      rw [Option.some.inj (hvalue.symm.trans huid)] at hid
      obtain ⟨hlabels, hproperties⟩ := hr.numbered.of_upsertId hr.single hn hid
      exact ⟨label, hlabels, hproperties ▸ hsigned⟩
  | keeps hkeeps => cases hkeeps
  | sweep hsweep => cases hsweep

/-- A node that is signed by the instance stays so along every run, as long as it is there. -/
theorem Steps.signed (h : Steps (.inMemory w buffer lanes) ⟨w.id, days⟩ p q)
    (hp : p.Orderly (.inMemory w buffer lanes) w.id kinds probe) {i : Nat}
    (hsigned : ∀ n ∈ p.store.graph.nodes, n.id = i → n.IsSigned w.id) :
    ∀ n ∈ q.store.graph.nodes, n.id = i → n.IsSigned w.id := by
  refine h.graph_induction (P := fun g => ∀ n ∈ g.nodes, n.id = i → n.IsSigned w.id)
    (fun hchange hsingle hg n hn hid => ?_) hp hsigned
  rcases hchange.mem_cases hsingle hn with hn | hsigned
  · exact hg n hn hid
  · exact hsigned

/-! ## The takeover -/

theorem probedState_eq_skipped {result : Except ProbeError Unit}
    (h : probedState result = .skipped) : ∃ e, result = .error e ∧ e.isUnavailable = true := by
  unfold probedState at h
  split at h
  · cases h
  · rename_i e
    split at h
    · exact ⟨e, rfl, ‹_›⟩
    · cases h

/-- Takeover of a cluster by the instance `w`, from a graph that is numbered and single-labelled,
whatever the probes and the watches say, and for every order of steps:

* while the instance is `sweeping`, the state of every kind is `synced`, or it is `skipped` because
  its probe failed with an error that `isUnavailable`;
* no step of the sweep removes a node that the instance has written since it began (`HasWritten`),
  and none removes its cluster node (`Node.IsClusterOf`);
* once the plan of the sweep is `done`, and ever after, no node but an event holds the `clusterName`
  of `w` and an `instanceHash` of another instance. -/
theorem takeover_safe {s : Shared MemoryStore} (hwritable : s.store.writable = true)
    (hnumbered : s.store.graph.Numbered) (hsingle : s.store.graph.SingleLabelled)
    (h : Steps (.inMemory w buffer lanes) ⟨w.id, days⟩
      (begin ⟨w.id, days⟩ (Pipeline.begin s probe)) q) :
    (∀ rest, q.phase = .sweeping rest → ∀ k ∈ s.registry.kinds,
      q.pipeline.shared.registry.state? k.name = some .synced
        ∨ (q.pipeline.shared.registry.state? k.name = some .skipped
          ∧ ∃ e, probe k = .error e ∧ e.isUnavailable = true))
    ∧ (∀ rest r, q.phase = .sweeping rest →
        q.act (.inMemory w buffer lanes) ⟨w.id, days⟩ .main = some r →
      (∀ n ∈ q.store.graph.nodes,
          HasWritten (.inMemory w buffer lanes) ⟨w.id, days⟩
            (begin ⟨w.id, days⟩ (Pipeline.begin s probe)) n.id q →
          n ∈ r.store.graph.nodes)
        ∧ ∃ n ∈ q.store.graph.nodes, n.IsClusterOf w.id ∧ n ∈ r.store.graph.nodes)
    ∧ (∀ result r, q.phase = .sweeping (.done result) →
        Steps (.inMemory w buffer lanes) ⟨w.id, days⟩ q r →
      ∀ n ∈ r.store.graph.nodes, Label.event ∉ n.labels →
        n.text? Key.clusterName = some w.id.cluster →
        ∀ hash, n.text? Key.instanceHash = some hash → hash = w.id.hash) := by
  have hbegin := orderly_begin (.inMemory w buffer lanes) ⟨w.id, days⟩ probe hwritable hnumbered
    hsingle
  have hq := h.orderly hbegin
  refine ⟨fun rest hrest k hk => ?_, fun rest r hrest hr => ?_, fun result r hdone hr n hn => ?_⟩
  · obtain ⟨tasks, hover⟩ := (hq.plans.sweeping rest hrest).synced
    exact (hq.starting.synced tasks hover k hk).imp_right
      (And.imp_right probedState_eq_skipped)
  · have hkeeps : ∀ n ∈ q.store.graph.nodes, n.IsSigned w.id → n ∈ r.store.graph.nodes :=
      fun n => hq.mem_of_sweeping hr hrest
    refine ⟨fun n hn hwritten => ?_, ?_⟩
    · obtain ⟨before, a, after, hbefore, hwrites, ha, hafter⟩ := hwritten
      have horderly := hbefore.orderly hbegin
      refine hkeeps n hn (hafter.signed (horderly.act ha) ?_ n hn rfl)
      exact horderly.signed_of_writes hwrites ha
    · rcases hq.plans.entered with ⟨now, hnow⟩ | ⟨n, hn, hcluster⟩
      · rw [hrest] at hnow
        cases hnow
      · exact ⟨n, hn, hcluster, hkeeps n hn hcluster.isSigned⟩
  · intro hevent hcluster hash hhash
    have hswept := hr.graph_induction Graph.ChangesBy.swept hq
      ((hq.plans.sweeping _ hdone).clears.resolve_left id)
    have hstale := hswept n hn (by simpa [Node.hasLabel] using hevent)
    simpa [Node.isStale, Node.holdsText, hcluster, hhash] using hstale

/-- What an earlier instance of the shop left: its cluster node, a namespace, a node of a kind that
is no longer watched, and an event. -/
def leftBehind : Graph :=
  [(Label.cluster, "shop/old"), (Label.namespace_, "n"), ("ScaledObject", "s"),
      (Label.event, "e")].foldl
    (fun g n => g.addNode [n.1] (Dict.ofList
      [(Key.uid, .text n.2), (Key.name, .text "shop"), (Key.clusterName, .text "shop"),
        (Key.instanceHash, .text "old")]))
    Graph.empty

/-- Writer of the instance that takes over. -/
def successor : Writer :=
  ⟨⟨"shop", "new"⟩, OwnerKinds.empty⟩

/-- The instance that takes over, at its beginning. It may not watch pods. -/
def successorStart : Run MemoryStore :=
  begin ⟨successor.id, 0⟩ <| Pipeline.begin
    ⟨.ofGraph leftBehind, .ofKinds [.namespace_, .pod], default, false, ⟨0, 0⟩⟩ fun
      | .pod => .error (.forbidden "pods")
      | _ => .ok ()

/-- The instance once it has read the namespace that its predecessor knew: a worker has taken that
up. -/
def successorWorking : Run MemoryStore :=
  let namespace_ : RawObject :=
    .typed .namespace_ ⟨⟨some "n", some "shop", none, none, none, none, []⟩, none⟩
  settle (.inMemory successor 1 0) ⟨successor.id, 0⟩ 3 <|
    ((settle (.inMemory successor 1 0) ⟨successor.id, 0⟩ 30 successorStart).receive
      ⟨successor.id, 0⟩ (.pipeline (.deliver .namespace_ (.notify (.add namespace_))))).receive
      ⟨successor.id, 0⟩ (.pipeline (.deliver .namespace_ (.notify .synced)))

/-- What is left of the sweep, while it is under way. -/
def sweepLeft? (r : Run MemoryStore) : Option (Plan (Except StoreError SweepReport)) :=
  match r.phase with
  | .sweeping rest => some rest
  | _ => none

theorem phase_of_sweepLeft? {rest : Plan (Except StoreError SweepReport)}
    (h : r.sweepLeft? = some rest) : r.phase = .sweeping rest := by
  unfold sweepLeft? at h
  split at h
  · rename_i found hfound
    rw [hfound, Option.some.inj h]
  · cases h

/-- A run to which `takeover_safe` applies: the instance writes the namespace again and sweeps, and
comes to the last call. The namespace is kept, and what is left of the predecessor is removed, but
for the event. -/
theorem takeover_safe_shop :
    ∃ q r : Run MemoryStore, Steps (.inMemory successor 1 0) ⟨successor.id, 0⟩ successorStart q
      ∧ q.act (.inMemory successor 1 0) ⟨successor.id, 0⟩ .main = some r
      ∧ q.pipeline.shared.registry.state? "Namespace" = some .synced
      ∧ (∃ n ∈ q.store.graph.nodes, n.id = 1 ∧ n ∈ r.store.graph.nodes)
      ∧ (∃ n ∈ q.store.graph.nodes, n.labels = ["ScaledObject"] ∧ n ∉ r.store.graph.nodes)
      ∧ ∀ n ∈ r.store.graph.nodes, Label.event ∉ n.labels →
          n.text? Key.clusterName = some "shop" →
          ∀ hash, n.text? Key.instanceHash = some hash → hash = "new" := by
  let env : Environment MemoryStore := .inMemory successor 1 0
  let settings : RunSettings := ⟨successor.id, 0⟩
  let a : RunAction := .pipeline (.consumer 0 (.lane 0 .call))
  have hworking : Steps env settings successorStart successorWorking := by
    unfold successorWorking
    exact (((steps_settle env settings 30 successorStart).receive _).receive _).trans
      (steps_settle env settings 3 _)
  have hwrites : successorWorking.writes? a = some 1 := by
    decide +kernel
  -- The worker makes its first call; after 14 more actions one call of the sweep is left.
  have hrun : (successorWorking.act env settings a).any (fun after =>
      let q := settle env settings 14 after
      (q.act env settings .main).any fun r =>
        q.sweepLeft?.isSome && r.sweepLeft?.any (fun rest => rest.call?.isNone)
        && q.store.graph.nodes.any (fun n => n.id = 1)
        && q.store.graph.nodes.any (fun n => n.labels = ["ScaledObject"])
        && r.store.graph.nodes.all (fun n => n.labels ≠ ["ScaledObject"])) = true := by
    decide +kernel
  obtain ⟨after, hafter, hrun⟩ := (Option.any_eq_true _ _).mp hrun
  obtain ⟨r, hr, hrun⟩ := (Option.any_eq_true _ _).mp hrun
  simp only [Bool.and_eq_true, List.any_eq_true, List.all_eq_true, decide_eq_true_eq,
    Option.any_eq_true, Option.isSome_iff_exists] at hrun
  obtain ⟨⟨⟨⟨⟨rest, hrest⟩, last, hlast, hnone⟩, n, hn, hid⟩, m, hm, hlabels⟩, hgone⟩ := hrun
  have hsweeping := phase_of_sweepLeft? hrest
  have hdone := phase_of_sweepLeft? hlast
  obtain ⟨result, rfl⟩ : ∃ result, last = .done result := by
    cases last with
    | done result => exact ⟨result, rfl⟩
    | call => cases hnone
  have h : Steps env settings successorStart (settle env settings 14 after) :=
    (hworking.act a hafter).trans (steps_settle env settings 14 after)
  have hwritten : HasWritten env settings successorStart n.id (settle env settings 14 after) :=
    ⟨successorWorking, a, after, hworking, hid ▸ hwrites, hafter,
      steps_settle env settings 14 after⟩
  unfold successorStart at h hwritten
  have hnumbered : leftBehind.Numbered := ⟨by decide, by decide⟩
  have hsingle : leftBehind.SingleLabelled := by
    have hlengths : ∀ n ∈ leftBehind.nodes, n.labels.length = 1 := by decide
    exact fun n hn => List.length_eq_one_iff.mp (hlengths n hn)
  obtain ⟨hsynced, hkeeps, -⟩ := takeover_safe rfl hnumbered hsingle h
  obtain ⟨-, -, hclears⟩ := takeover_safe rfl hnumbered hsingle (h.act .main hr)
  refine ⟨_, r, h, hr, ?_, ⟨n, hn, hid, (hkeeps rest r hsweeping hr).1 n hn hwritten⟩,
    ⟨m, hm, hlabels, fun hmem => hgone m hmem hlabels⟩, hclears result r hdone (.refl r)⟩
  refine (hsynced rest hsweeping .namespace_ (by decide)).resolve_right fun hskipped => ?_
  obtain ⟨-, e, he, -⟩ := hskipped
  cases he

end Run
end ClusterGraph
