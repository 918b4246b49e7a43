import ClusterGraph.Proofs.Pipeline.Reflecting

/-!
# ClusterGraph.Proofs.Pipeline.Refinement

**Lanes side by side leave the same nodes as one notification after the other.**

Any number of kinds, each with any number of lanes, follow all that their watches bring, in any
order of steps. When nothing is left to do, the nodes are those that a sequence leaves in which
the notifications of each kind stand in the order of the watch, whatever the order between
kinds and whatever the clock showed (`Pipeline.Steps.perm_contents_followAll`). Relationships
are another matter: they depend on what was there when they were made.

For one kind it does not take as much: once all is handled that its watch brought, its objects are
as that has made them, whatever the others are at, cancelled or not
(`Pipeline.Steps.lastingAt_of_handled`).
-/

namespace ClusterGraph

/-! ## Kinds that are subscribed to -/

/-- A kind that is subscribed to: the number of its `lanes`, and the whole `stream` of items that
its watch delivers. -/
structure Source where
  kind : Kind
  lanes : Nat
  stream : List StreamItem

namespace Source

/-- The notifications of the `stream` that go to a lane. -/
def work (h : Source) : List Notification :=
  h.stream.filterMap StreamItem.work?

/-- The consumer of a source at the beginning: the whole `stream` has arrived, and the watch has
`ended`. -/
def consumer (h : Source) : Consumer :=
  { Consumer.start h.kind h.lanes with arrived := h.stream, ended := true }

/-- All `work` of the source is done, in some order. -/
def IsHandled (h : Source) (seen : List Observation) : Prop :=
  (workDone (observed h.kind seen)).Perm h.work

end Source

namespace Consumer

/-- Nothing is left to read, to send or to handle. -/
structure IsDrained (c : Consumer) : Prop where
  read : c.arrived = []
  sent : ∀ n i, c.phase ≠ .sending n i
  handled : ∀ l ∈ c.lanes, l.waiting = [] ∧ l.current = []

def isSending (c : Consumer) : Bool :=
  match c.phase with
  | .sending _ _ => true
  | _ => false

theorem isSending_eq_false_iff {c : Consumer} :
    c.isSending = false ↔ ∀ n i, c.phase ≠ .sending n i := by
  unfold isSending
  cases c.phase <;> simp

instance : DecidablePred IsDrained := fun c =>
  decidable_of_iff (c.arrived.isEmpty = true ∧ c.isSending = false
      ∧ ∀ l ∈ c.lanes, l.waiting.isEmpty = true ∧ l.current.isEmpty = true) <| by
    simp only [List.isEmpty_iff, isSending_eq_false_iff]
    exact ⟨fun h => ⟨h.1, h.2.1, h.2.2⟩, fun h => ⟨h.read, h.sent, h.handled⟩⟩

theorem Accounts.done_of_drained {c : Consumer} {own : List Observation} (h : c.Accounts own)
    (hdrained : c.IsDrained) {i : Nat} (hi : i < c.lanes.length) :
    onLane c.lanes.length i (workDone own) = onLane c.lanes.length i (workRead own) := by
  have hlane : c.lanes[i]? = some c.lanes[i] := List.getElem?_eq_getElem hi
  obtain ⟨hwaiting, hcurrent⟩ := hdrained.handled c.lanes[i] (List.getElem_mem hi)
  have hread := h.read i _ hlane
  rw [h.begun i _ hlane, hwaiting, hcurrent, inHand_of_not_sending hdrained.sent, List.append_nil,
    List.append_nil, List.append_nil] at hread
  exact hread.symm

/-- If what is done is a permutation of `work`, of which what was read is a prefix, then on each
lane it is the part of `work` that belongs there, in its order. -/
theorem InOrder.done_of_perm {c : Consumer} {own : List Observation} (h : c.InOrder own)
    {work : List Notification} (hread : workRead own <+: work) (hperm : (workDone own).Perm work)
    {i : Nat} {l : Lane} (hlane : c.lanes[i]? = some l) :
    onLane c.lanes.length i (workDone own) = onLane c.lanes.length i work := by
  -- A prefix that is as long as the whole.
  have hprefix := ((List.prefix_append _ _).trans (h.done i l hlane)).trans
    (onLane_mono hread c.lanes.length i)
  exact hprefix.eq_of_length (hperm.filter _).length_eq

/-- If what is done is a permutation of `work`, the entry of each object is the one in `g` changed
by all of `work`, in its order. -/
theorem Reflects.of_perm {w : Writer} {g : Graph} {s : MemoryStore} {c : Consumer}
    {own : List Observation} (h : c.Reflects w g s own) (horder : c.InOrder own)
    {work : List Notification} (hread : workRead own <+: work) (hperm : (workDone own).Perm work)
    (hobjects : ∀ n ∈ work, n.IsOfObject) (uid : String) :
    s.graph.lastingAt c.kind uid
      = NodeChange.applyAll (work.map (Notification.lastingChange w c.kind uid))
          (g.lastingAt c.kind uid) := by
  have hi := horder.laneFor_lt_length (some uid)
  have hlane := List.getElem?_eq_getElem hi
  have hdone := horder.done_of_perm hread hperm hlane
  obtain ⟨ns, -, hnext, hentry⟩ := h uid _ _ rfl hlane
  -- The worker has nothing left to be at: all that belongs to the lane is done.
  have hnone : ns = [] := by
    have hlength := (hnext.trans (onLane_mono hread _ _)).length_le
    rw [hdone, List.length_append] at hlength
    exact List.eq_nil_of_length_eq_zero (by omega)
  rw [hentry, hnone, List.append_nil]
  refine Notification.applyAll_congr_uid ?_ hobjects (filter_uid_of_onLane hdone) _
  exact fun n hn => hobjects n (hperm.subset hn)

section Steps

variable {σ : Type} {env : Environment σ} {c : Consumer} {s : Shared σ} {o : ConsumerOutcome σ}

theorem Step.stream_eq (hstep : Step env c s o) (own : List Observation) :
    itemsRead (own ++ o.seen) ++ o.consumer.arrived = itemsRead own ++ c.arrived := by
  cases hstep with
  | readFailure _ _ harrived | readMarker _ _ harrived | readWork _ _ harrived =>
      rw [harrived, itemsRead_append, List.append_assoc]
      rfl
  | _ => simp [goTo, setLane]

theorem Step.ended_eq (hstep : Step env c s o) : o.consumer.ended = c.ended := by
  cases hstep <;> rfl

end Steps

end Consumer

namespace Pipeline

/-- A pipeline that has subscribed to the kinds of `sources` and goes on to wait for them. -/
def ofSources {σ : Type} (s : Shared σ) (sources : List Source) : Pipeline σ :=
  ⟨s, .looking 0, sources.map Source.consumer, false⟩

section Reading

variable {σ : Type} {env : Environment σ} {s : Shared σ} {sources : List Source}

theorem map_kind_ofSources : (ofSources s sources).consumers.map Consumer.kind
    = sources.map Source.kind := by
  unfold ofSources
  rw [List.map_map]
  rfl

theorem subscribed_ofSources (hdistinct : (sources.map Source.kind).Nodup) :
    (ofSources s sources).Subscribed :=
  ⟨map_kind_ofSources (s := s) ▸ hdistinct, nofun, nofun⟩

/-- Invariant: what a consumer has read, followed by what has `arrived`, is the stream of the source
of its kind. -/
def ReadsFrom (sources : List Source) (c : Consumer) (own : List Observation) : Prop :=
  c.ended = true ∧ ∃ h ∈ sources, h.kind = c.kind ∧ itemsRead own ++ c.arrived = h.stream

theorem stable_readsFrom (env : Environment σ) (sources : List Source) :
    Stable env (fun _ => True) fun _ _ c own => ReadsFrom sources c own where
  store _ _ _ := trivial
  own hstep _ h := by
    obtain ⟨hended, source, hsource, hkind, hstream⟩ := h
    refine ⟨hstep.ended_eq.trans hended, source, hsource, hkind.trans hstep.kind_eq.symm, ?_⟩
    rw [hstep.stream_eq, hstream]
  other _ _ _ _ h := h
  deliver item hopen h := by
    have hended := h.1
    rw [hopen] at hended
    cases hended
  finish h := ⟨rfl, h.2⟩
  cancel h := h

theorem Steps.readsFrom (hdistinct : (sources.map Source.kind).Nodup) {q : Pipeline σ}
    {seen : List Observation} (h : Steps env (ofSources s sources) seen q) :
    ∀ c ∈ q.consumers, ReadsFrom sources c (observed c.kind seen) := by
  refine (h.stable (stable_readsFrom env sources) (subscribed_ofSources hdistinct) trivial ?_ ?_).2
  · intro c hc
    obtain ⟨source, hsource, rfl⟩ := List.mem_map.mp hc
    exact ⟨rfl, source, hsource, rfl, rfl⟩
  · exact fun _ _ _ _ hmore => absurd trivial hmore

/-- Each source has a consumer, and what was read of its kind, followed by what has `arrived`, is
its stream. -/
theorem Steps.exists_consumer (hdistinct : (sources.map Source.kind).Nodup) {q : Pipeline σ}
    {seen : List Observation} (h : Steps env (ofSources s sources) seen q) {source : Source}
    (hsource : source ∈ sources) : ∃ c ∈ q.consumers, c.kind = source.kind
      ∧ itemsRead (observed source.kind seen) ++ c.arrived = source.stream := by
  have hkinds : source.kind ∈ (ofSources s sources).consumers.map Consumer.kind := by
    rw [map_kind_ofSources]
    exact List.mem_map_of_mem hsource
  obtain ⟨c, hc, hkind⟩ := List.mem_map.mp (h.kinds_prefix.subset hkinds)
  obtain ⟨-, other, hother, hok, hstream⟩ := h.readsFrom hdistinct c hc
  have hsame : other = source :=
    List.inj_on_of_nodup_map hdistinct hother hsource (hok.trans hkind)
  rw [hkind, hsame] at hstream
  exact ⟨c, hc, hkind, hstream⟩

theorem inStep_ofSources {w : Writer} {tracked : Kind → Prop} {s : Shared MemoryStore} :
    ∀ c ∈ (ofSources s sources).consumers,
      InStep w s.store.graph tracked s.store s.cancelled c [] := by
  intro c hc
  obtain ⟨source, -, rfl⟩ := List.mem_map.mp hc
  have hidle : ∀ (i : Nat) (l : Lane), source.consumer.lanes[i]? = some l → l = Lane.start :=
    fun i l hl => List.eq_of_mem_replicate (List.mem_of_getElem? hl)
  have haccounts : source.consumer.Accounts [] :=
    (Consumer.accounts_start source.kind source.lanes rfl rfl rfl).congr rfl rfl
  refine ⟨?_, haccounts.inOrder, fun _ => haccounts, fun _ _ uid i l _ hl => ?_⟩
  · intro l hl
    rw [List.eq_of_mem_replicate hl]
    exact ⟨[], rfl⟩
  · rw [hidle i l hl]
    exact ⟨[], rfl, List.prefix_rfl, rfl⟩

end Reading

/-! ## What is not followed -/

section Apart

variable {w : Writer} {buffer lanes : Nat} {sources : List Source} {s : Shared MemoryStore}
  {tracked : Kind → Prop}

/-- Nobody who follows the kind `k` writes to nodes with the key `κ`: it has another label, or it is
the key of no object of `k` and `k` is `tracked`. -/
def Spares (tracked : Kind → Prop) (k : Kind) (κ : NodeKey) : Prop :=
  (∃ other uid, κ = ⟨[other], uid⟩ ∧ k.name ≠ other)
    ∨ (tracked k ∧ ∀ uid, κ ≠ .ofObject k.name uid)

/-- Invariant of the store: it is `Receptive`, and the nodes with keys that all `kinds` spare are
those of `g`. -/
structure Apart (tracked : Kind → Prop) (kinds : List Kind) (g : Graph) (s : MemoryStore) :
    Prop where
  receptive : Receptive tracked s
  same : ∀ κ, (∀ k ∈ kinds, Spares tracked k κ) → s.graph.propertiesAt κ = g.propertiesAt κ

theorem Apart.perform {kinds : List Kind} {g : Graph} {s : MemoryStore}
    (h : Apart tracked kinds g s) {k : Kind} (hk : k ∈ kinds) {q : Call} (hq : q.IsOf k.name) :
    Apart tracked kinds g (MemoryStore.perform q s).2 := by
  refine ⟨h.receptive.perform hq, fun κ hκ => ?_⟩
  rw [← h.same κ hκ]
  have hname := k.isIdentifier_name
  rcases hκ k hk with ⟨other, uid, rfl, hne⟩ | ⟨htracked, hne⟩
  · exact MemoryStore.propertiesAt_perform_other hname hq h.receptive.writable hne uid
  · exact MemoryStore.propertiesAt_perform_of_ne hname hq h.receptive.writable
      (h.receptive.keyed k htracked) hne

theorem stable_apart (w : Writer) (tracked : Kind → Prop) (g : Graph) (kinds : List Kind)
    (buffer lanes : Nat) :
    Stable (.inMemory w buffer lanes) (Apart tracked kinds g)
      fun _ _ c _ => c.FollowsObjects w ∧ c.kind ∈ kinds where
  store hstep hG h := by
    rcases hstep.store_cases h.1 with hstore | ⟨q, hq, hstore⟩
    · rw [hstore]
      exact hG
    · rw [hstore]
      exact hG.perform h.2 hq
  own hstep _ h := by
    refine ⟨hstep.followsObjects h.1, ?_⟩
    rw [hstep.kind_eq]
    exact h.2
  other _ _ _ _ h := h
  deliver _ _ h := h
  finish h := h
  cancel h := h

/-- The invariant `Apart` holds along every run from `ofSources`. -/
theorem Steps.apart (hdistinct : (sources.map Source.kind).Nodup)
    (hstore : Receptive tracked s.store) {q : Pipeline MemoryStore}
    {seen : List Observation} (h : Steps (.inMemory w buffer lanes) (ofSources s sources) seen q) :
    Apart tracked (sources.map Source.kind) s.store.graph q.shared.store := by
  refine (h.stable (stable_apart w tracked s.store.graph (sources.map Source.kind) buffer lanes)
    (subscribed_ofSources hdistinct) ⟨hstore, fun _ _ => rfl⟩ ?_ ?_).1
  · intro c hc
    have hinStep : InStep w s.store.graph tracked s.store s.cancelled c [] :=
      inStep_ofSources c hc
    refine ⟨hinStep.follows, ?_⟩
    rw [← map_kind_ofSources (s := s)]
    exact List.mem_map_of_mem hc
  · exact fun _ _ _ _ hmore => absurd trivial hmore

end Apart

/-! ## The nodes in the end -/

section Refinement

variable {w : Writer} {buffer lanes : Nat} {sources : List Source} {s : Shared MemoryStore}
  {q : Pipeline MemoryStore} {seen : List Observation}

theorem Steps.inStep {tracked : Kind → Prop} (hdistinct : (sources.map Source.kind).Nodup)
    (hstore : Receptive tracked s.store)
    (h : Steps (.inMemory w buffer lanes) (ofSources s sources) seen q) : ∀ c ∈ q.consumers,
      InStep w s.store.graph tracked q.shared.store q.shared.cancelled c
        (observed c.kind seen) :=
  (h.stable (stable_inStep w s.store.graph tracked buffer lanes) (subscribed_ofSources hdistinct)
    hstore inStep_ofSources fun _ _ _ _ hmore => absurd trivial hmore).2

/-- If the consumer of a source `IsDrained` and the run was not cancelled, then the source
`IsHandled`. -/
theorem Steps.isHandled_of_drained (hdistinct : (sources.map Source.kind).Nodup)
    (hwritable : s.store.writable = true)
    (h : Steps (.inMemory w buffer lanes) (ofSources s sources) seen q)
    (hlive : q.shared.cancelled = false) {source : Source} (hsource : source ∈ sources)
    (hdrained : ∀ c ∈ q.consumers, c.kind = source.kind → c.IsDrained) :
    source.IsHandled seen := by
  obtain ⟨c, hc, hkind, hstream⟩ := h.exists_consumer hdistinct hsource
  have hcdrained := hdrained c hc hkind
  have hinStep : InStep w s.store.graph (fun _ => False) q.shared.store q.shared.cancelled c
      (observed c.kind seen) := h.inStep hdistinct ⟨hwritable, nofun⟩ c hc
  have haccounts := hinStep.accounts hlive
  rw [hcdrained.read, List.append_nil] at hstream
  rw [hkind] at haccounts
  unfold Source.IsHandled Source.work
  rw [← hstream]
  refine perm_of_onLane fun i hi => haccounts.done_of_drained hcdrained ?_
  have hpos := List.length_pos_iff.mpr haccounts.lanes
  omega

/-- If a source `IsHandled`, the entry of each object of its kind is the one at the beginning
changed by all `work` of the source, in its order. This holds whether the run was cancelled or
not. -/
theorem Steps.lastingAt_of_handled {tracked : Kind → Prop}
    (hdistinct : (sources.map Source.kind).Nodup) (hstore : Receptive tracked s.store)
    (h : Steps (.inMemory w buffer lanes) (ofSources s sources) seen q) {source : Source}
    (hsource : source ∈ sources) (htracked : tracked source.kind)
    (hobjects : ∀ n ∈ source.work, n.IsOfObject) (hhandled : source.IsHandled seen)
    (uid : String) :
    q.shared.store.graph.lastingAt source.kind uid
      = NodeChange.applyAll (source.work.map (Notification.lastingChange w source.kind uid))
          (s.store.graph.lastingAt source.kind uid) := by
  obtain ⟨c, hc, hkind, hstream⟩ := h.exists_consumer hdistinct hsource
  have hinStep := h.inStep hdistinct hstore c hc
  have hread : workRead (observed source.kind seen) <+: source.work := by
    unfold workRead Source.work
    rw [← hstream, List.filterMap_append]
    exact List.prefix_append _ _
  unfold Source.IsHandled at hhandled
  rw [← hkind] at htracked hread hhandled ⊢
  exact (hinStep.reflects htracked fun n hn => hobjects n (hread.subset hn)).of_perm hinStep.order
    hread hhandled hobjects uid

/-- Parallel lanes refine sequential handling. If every consumer of a run `IsDrained`, the contents
of the nodes are those that `Dispatch.followAll` leaves, which follows one notification after the
other, in any order of `dispatches` that keeps the order of each kind. It holds for any number of
lanes, lanes of any size, and every order of steps. -/
theorem Steps.perm_contents_followAll (hdistinct : (sources.map Source.kind).Nodup)
    (hobjects : ∀ source ∈ sources, ∀ n ∈ source.work, n.IsOfObject)
    (hwritable : s.store.writable = true) (hgraph : s.store.graph.Keyed)
    (h : Steps (.inMemory w buffer lanes) (ofSources s sources) seen q)
    (hlive : q.shared.cancelled = false) (hdrained : ∀ c ∈ q.consumers, c.IsDrained)
    {dispatches : List Dispatch}
    (hkinds : ∀ d ∈ dispatches, d.kind ∈ sources.map Source.kind)
    (horder : ∀ source ∈ sources,
      Dispatch.notificationsOf source.kind dispatches = source.work) :
    (q.shared.store.graph.nodes.map Node.content).Perm
      ((Dispatch.followAll w dispatches s.store).graph.nodes.map Node.content) := by
  have hstore : Receptive (fun _ => True) s.store :=
    ⟨hwritable, fun k _ => hgraph.keyedAt k.name⟩
  -- Keys of objects are compared by what was told of them; nobody touches the others.
  refine Graph.perm_contents fun κ => ?_
  by_cases hκ : ∃ source ∈ sources, ∃ uid, κ = .ofObject source.kind.name uid
  · obtain ⟨source, hsource, uid, rfl⟩ := hκ
    have hhandled := h.isHandled_of_drained hdistinct hwritable hlive hsource
      fun c hc _ => hdrained c hc
    have hlanes := h.lastingAt_of_handled hdistinct hstore hsource trivial
      (hobjects source hsource) hhandled uid
    have hsequence := Dispatch.followAll_lastingAt (w := w) dispatches hwritable hgraph.keyedAt
      source.kind uid
    rw [horder source hsource] at hsequence
    exact hlanes.trans hsequence.symm
  · have hapart : ∀ k ∈ sources.map Source.kind, ∀ uid, κ ≠ .ofObject k.name uid := by
      intro k hk uid heq
      subst heq
      obtain ⟨source, hsource, rfl⟩ := List.mem_map.mp hk
      exact hκ ⟨source, hsource, uid, rfl⟩
    rw [(h.apart hdistinct hstore).same κ fun k hk => .inr ⟨trivial, hapart k hk⟩,
      Dispatch.followAll_propertiesAt_of_ne dispatches hwritable hgraph.keyedAt
        fun d hd => hapart d.kind (hkinds d hd)]

/-- An empty store, and nothing cancelled. -/
def atFirst : Shared MemoryStore :=
  ⟨MemoryStore.empty, Registry.ofKinds [], default, false, ⟨0, 0⟩⟩

/-- A namespace that appears. -/
def appearing : Notification :=
  .add (.typed .namespace_ ⟨⟨some "n", some "default", none, none, none, none, []⟩, none⟩)

/-- A configuration map that is gone, of which only the `uid` is known. -/
def vanishing : Notification :=
  .delete (.unstructured (.ofFields [("metadata", .ofFields [("uid", .text "c")])]))

/-- A run to which `perm_contents_followAll` applies: two kinds, one with one lane and one with two,
write side by side. The nodes are those of a sequence of dispatches that begins with the kind that
finished last. -/
theorem perm_contents_followAll_two :
    ∃ (seen : List Observation) (q : Pipeline MemoryStore),
      Steps (.inMemory ⟨⟨"cluster", "hash"⟩, OwnerKinds.empty⟩ 1 0)
        (ofSources atFirst [⟨.namespace_, 0, [.notify appearing]⟩,
          ⟨.configMap, 2, [.failure, .notify vanishing]⟩]) seen q
      ∧ (∀ c ∈ q.consumers, c.IsDrained)
      ∧ (q.shared.store.graph.nodes.map Node.content).Perm
          ((Dispatch.followAll ⟨⟨"cluster", "hash"⟩, OwnerKinds.empty⟩
            [⟨⟨0, 0⟩, .namespace_, appearing⟩, ⟨⟨1, 0⟩, .configMap, vanishing⟩]
            atFirst.store).graph.nodes.map Node.content) := by
  have hrun : (replay (.inMemory ⟨⟨"cluster", "hash"⟩, OwnerKinds.empty⟩ 1 0)
      [.act (.consumer 0 .read), .act (.consumer 1 .read), .act (.consumer 1 .read),
        .act (.consumer 1 .send), .act (.consumer 0 .send),
        .act (.consumer 1 (.lane 1 .take)), .act (.consumer 0 (.lane 0 .take)),
        .act (.consumer 1 (.lane 1 .call)), .act (.consumer 0 (.lane 0 .call)),
        .act (.consumer 1 (.lane 1 .finish)), .act (.consumer 0 (.lane 0 .finish))]
      (ofSources atFirst [⟨.namespace_, 0, [.notify appearing]⟩,
        ⟨.configMap, 2, [.failure, .notify vanishing]⟩])).any (fun r =>
          decide (r.2.shared.cancelled = false ∧ ∀ c ∈ r.2.consumers, c.IsDrained)) = true := by
    decide +kernel
  obtain ⟨⟨seen, q⟩, hreplay, hend⟩ := (Option.any_eq_true _ _).mp hrun
  obtain ⟨hlive, hdrained⟩ := of_decide_eq_true hend
  have h := steps_of_replay hreplay
  refine ⟨seen, q, h, hdrained,
    h.perm_contents_followAll (by decide) ?_ rfl ?_ hlive hdrained (by decide) ?_⟩
  · simp only [List.forall_mem_cons, Source.work, List.filterMap]
    refine ⟨?_, ?_, nofun⟩
    · intro n hn raw hraw
      rw [List.mem_singleton.mp hn] at hraw
      cases hraw
      trivial
    · intro n hn raw hraw
      rw [List.mem_singleton.mp hn] at hraw
      cases hraw
      rfl
  · exact ⟨nofun, fun _ _ => Nat.zero_le 1⟩
  · simp only [List.forall_mem_cons]
    exact ⟨rfl, rfl, nofun⟩

end Refinement

end Pipeline
end ClusterGraph
