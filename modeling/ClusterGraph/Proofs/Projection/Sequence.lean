import ClusterGraph.Proofs.Projection.Following

/-!
# ClusterGraph.Proofs.Projection.Sequence

**What notifications do to the nodes when they are followed one at a time.**

This is the measure for everything that follows them side by side. What stands under the
identifier of an object in the end is what the notifications of its kind make of it, in order
(`followAll_lastingAt`), and only those about the object itself count
(`applyAll_filter_uid`). The time of recording of an event depends on the clock and on nothing
else, so it is left out of the comparison (`Graph.lastingAt`).
-/

namespace ClusterGraph

/-! ## Lasting entries -/

/-- The properties of the nodes of an object, without the `createdAt` of an event. -/
def Graph.lastingAt (g : Graph) (k : Kind) (uid : String) : List Properties :=
  (g.propertiesAt (.ofObject k.name uid)).map (Node.lasting [k.name])

namespace Notification

/-- The object of the notification is a JSON object or typed, if there is one. -/
def IsOfObject (n : Notification) : Prop :=
  ∀ raw, n.object? = some raw → raw.IsObject

/-- The change to the entry of `uid` that a notification calls for, without `createdAt`. It does not
depend on the time. -/
def lastingChange (w : Writer) (k : Kind) (uid : String) (n : Notification) : NodeChange :=
  (n.change w ⟨0, 0⟩ k uid).map (Node.lasting [k.name])

theorem map_change (w : Writer) (now : Instant) (k : Kind) (uid : String) (n : Notification) :
    (n.change w now k uid).map (Node.lasting [k.name]) = n.lastingChange w k uid :=
  map_change_congr w now ⟨0, 0⟩ k uid n

/-- For kinds other than events, `Node.lasting` leaves nothing out. -/
theorem lasting_of_ne_event {k : Kind} (hk : k ≠ .event) (p : Properties) :
    Node.lasting [k.name] p = p := by
  have hlabel : [k.name].contains Label.event = false := by
    rw [List.contains_eq_mem, decide_eq_false_iff_not, List.mem_singleton]
    intro heq
    have hname : Kind.event.name = k.name := heq
    exact hk (Kind.name_injective hname).symm
  unfold Node.lasting
  rw [hlabel]
  rfl

theorem lastingAt_of_ne_event {k : Kind} (hk : k ≠ .event) (g : Graph) (uid : String) :
    g.lastingAt k uid = g.propertiesAt (.ofObject k.name uid) := by
  unfold Graph.lastingAt
  rw [List.map_congr_left fun p _ => lasting_of_ne_event hk p, List.map_id']

/-- The change by an `add` or `update`, for kinds other than events: the entry of the object is
written, and every other kept. -/
theorem lastingChange_of_convert {w : Writer} {k : Kind} (hk : k ≠ .event) {uid : String}
    {n : Notification} {raw : RawObject} {o : ObjectOf k} (hn : n = .add raw ∨ n = .update raw)
    (hconvert : raw.convert k k.name = .ok o) (huid : (ObjectOf.objectMeta k o).uid = some uid)
    (hne : uid ≠ "") (now : Instant) (other : String) :
    n.lastingChange w k other
      = if uid = other then .write (storedProperties (ObjectOf.fields w.id now uid k o))
        else .keep := by
  rw [← map_change w now, change_of_convert hn hconvert huid hne]
  split
  · exact congrArg NodeChange.write (lasting_of_ne_event hk _)
  · rfl

theorem lastingChange_delete {w : Writer} {k : Kind} (hk : k ≠ .event) {uid : String}
    {raw : RawObject} (huid : raw.uid? = some uid) (hne : uid ≠ "") (other : String) :
    (Notification.delete raw).lastingChange w k other
      = if uid = other then .remove else .keep := by
  unfold lastingChange
  rw [change_delete hk (RawObject.requireUid_eq_ok_iff.mpr ⟨huid, hne⟩)]
  split <;> rfl

/-- Deletions clear the entries of their objects and keep every other. -/
theorem applyAll_delete {w : Writer} {k : Kind} (hk : k ≠ .event) {gone : List RawObject}
    (hgone : ∀ raw ∈ gone, ∃ uid, raw.uid? = some uid ∧ uid ≠ "") (uid : String)
    (found : List Properties) :
    NodeChange.applyAll ((gone.map Notification.delete).map (lastingChange w k uid)) found
      = if some uid ∈ gone.map RawObject.uid? then [] else found := by
  induction gone generalizing found with
  | nil => rfl
  | cons raw rest ih =>
      obtain ⟨other, hother, hne⟩ := hgone raw (by simp)
      rw [List.map_cons, List.map_cons, NodeChange.applyAll_cons,
        ih (fun r hr => hgone r (List.mem_cons_of_mem _ hr)), lastingChange_delete hk hother hne,
        List.map_cons, hother]
      by_cases heq : other = uid
      · subst heq
        simp [NodeChange.apply]
      · simp [heq, Ne.symm heq]

/-- A notification about another object keeps the entry of `uid`. -/
theorem lastingChange_eq_keep {w : Writer} {k : Kind} {uid : String} {n : Notification}
    (hobject : n.IsOfObject) (huid : n.uid? ≠ some uid) : n.lastingChange w k uid = .keep := by
  have hkeep : n.change w ⟨0, 0⟩ k uid = .keep :=
    Classical.byContradiction fun hchange => huid (uid?_of_change hobject hchange)
  unfold lastingChange
  rw [hkeep]
  rfl

/-- Of a list of notifications, only those about `uid` change the entry of `uid`. -/
theorem applyAll_filter_uid {w : Writer} {k : Kind} {uid : String} {ns : List Notification}
    (hobject : ∀ n ∈ ns, n.IsOfObject) (found : List Properties) :
    NodeChange.applyAll (ns.map (lastingChange w k uid)) found
      = NodeChange.applyAll ((ns.filter fun n => n.uid? = some uid).map (lastingChange w k uid))
          found := by
  induction ns generalizing found with
  | nil => rfl
  | cons n rest ih =>
      have hrest := fun found => ih (fun m hm => hobject m (List.mem_cons_of_mem _ hm)) found
      by_cases huid : n.uid? = some uid
      · rw [List.filter_cons_of_pos (by simpa using huid), List.map_cons, List.map_cons,
          NodeChange.applyAll_cons, NodeChange.applyAll_cons, hrest]
      · rw [List.filter_cons_of_neg (by simpa using huid), List.map_cons,
          NodeChange.applyAll_cons, lastingChange_eq_keep (hobject n (by simp)) huid, hrest]
        rfl

/-- Two lists with the same notifications about `uid`, in the same order, change the entry of `uid`
in the same way. -/
theorem applyAll_congr_uid {w : Writer} {k : Kind} {uid : String}
    {first second : List Notification} (hfirst : ∀ n ∈ first, n.IsOfObject)
    (hsecond : ∀ n ∈ second, n.IsOfObject)
    (heq : (first.filter fun n => n.uid? = some uid) = second.filter fun n => n.uid? = some uid)
    (found : List Properties) :
    NodeChange.applyAll (first.map (lastingChange w k uid)) found
      = NodeChange.applyAll (second.map (lastingChange w k uid)) found := by
  rw [applyAll_filter_uid hfirst, applyAll_filter_uid hsecond, heq]

end Notification

/-! ## One after the other -/

/-- A notification of `kind` that is handled at `time`. -/
structure Dispatch where
  time : Instant
  kind : Kind
  notification : Notification

namespace Dispatch

def plan (w : Writer) (d : Dispatch) : Plan (Except SyncError Unit) :=
  Environment.followObject w d.time d.kind d.notification

theorem follows (w : Writer) (d : Dispatch) : Follows w d.time d.kind d.notification (d.plan w) :=
  Follows.followObject w d.time d.kind d.notification

/-- Handle a dispatch, in a store in memory. -/
def follow (w : Writer) (s : MemoryStore) (d : Dispatch) : MemoryStore :=
  ((d.plan w).run MemoryStore.perform s).2

/-- Handle all dispatches, one after the other. -/
def followAll (w : Writer) (dispatches : List Dispatch) (s : MemoryStore) : MemoryStore :=
  dispatches.foldl (follow w) s

variable {w : Writer} {s : MemoryStore}

theorem writable_follow (d : Dispatch) (h : s.writable = true) : (d.follow w s).writable = true :=
  Plan.run_induction (P := fun r : MemoryStore => r.writable = true)
    (fun c _ _ hr => MemoryStore.writable_perform c hr) h

theorem keyedAt_follow (d : Dispatch) {label : String} (h : s.writable = true)
    (hg : s.graph.KeyedAt label) : (d.follow w s).graph.KeyedAt label := by
  have hkeep : ∀ c (r : MemoryStore), (d.plan w).Calls c →
      r.writable = true ∧ r.graph.KeyedAt label →
      (MemoryStore.perform c r).2.writable = true
        ∧ (MemoryStore.perform c r).2.graph.KeyedAt label := by
    intro c r hc hgiven
    obtain ⟨hr, hkeyed⟩ := hgiven
    exact ⟨MemoryStore.writable_perform c hr, MemoryStore.keyedAt_perform d.kind.isIdentifier_name
      ((d.follows w).isOf c hc) hr hkeyed⟩
  exact (Plan.run_induction hkeep ⟨h, hg⟩).2

theorem lastingAt_follow (d : Dispatch) (h : s.writable = true) (hg : s.graph.KeyedAt d.kind.name)
    (uid : String) :
    (d.follow w s).graph.lastingAt d.kind uid
      = (d.notification.lastingChange w d.kind uid).apply (s.graph.lastingAt d.kind uid) := by
  have hrun := (d.follows w).changesFirst.propertiesAt_run d.kind.isIdentifier_name
    (d.follows w).isOf h hg uid
  unfold Graph.lastingAt follow
  rw [hrun, NodeChange.map_apply]
  exact congrArg (NodeChange.apply · _) (Notification.map_change w d.time d.kind uid _)

theorem propertiesAt_follow_of_ne (d : Dispatch) (h : s.writable = true)
    (hg : s.graph.KeyedAt d.kind.name) {κ : NodeKey}
    (hκ : ∀ uid, κ ≠ .ofObject d.kind.name uid) :
    (d.follow w s).graph.propertiesAt κ = s.graph.propertiesAt κ := by
  have hkeep : ∀ c (r : MemoryStore), (d.plan w).Calls c →
      (r.writable = true ∧ r.graph.KeyedAt d.kind.name)
        ∧ r.graph.propertiesAt κ = s.graph.propertiesAt κ →
      ((MemoryStore.perform c r).2.writable = true
        ∧ (MemoryStore.perform c r).2.graph.KeyedAt d.kind.name)
        ∧ (MemoryStore.perform c r).2.graph.propertiesAt κ = s.graph.propertiesAt κ := by
    intro c r hc hgiven
    obtain ⟨⟨hr, hkeyed⟩, heq⟩ := hgiven
    have hof := (d.follows w).isOf c hc
    refine ⟨⟨MemoryStore.writable_perform c hr,
      MemoryStore.keyedAt_perform d.kind.isIdentifier_name hof hr hkeyed⟩, ?_⟩
    rw [MemoryStore.propertiesAt_perform_of_ne d.kind.isIdentifier_name hof hr hkeyed hκ, heq]
  exact (Plan.run_induction hkeep ⟨⟨h, hg⟩, rfl⟩).2

/-- The notifications of `k` among `dispatches`, in their order. -/
def notificationsOf (k : Kind) (dispatches : List Dispatch) : List Notification :=
  (dispatches.filter fun d => d.kind = k).map notification

/-- The entry of an object after `followAll` is the one from before, changed by the notifications of
its kind one after the other. -/
theorem followAll_lastingAt (dispatches : List Dispatch) (h : s.writable = true)
    (hg : ∀ label, s.graph.KeyedAt label) (k : Kind) (uid : String) :
    (followAll w dispatches s).graph.lastingAt k uid
      = NodeChange.applyAll
          ((notificationsOf k dispatches).map (Notification.lastingChange w k uid))
          (s.graph.lastingAt k uid) := by
  -- A dispatch of another kind writes under another label, so the entry is as it was.
  induction dispatches generalizing s with
  | nil => rfl
  | cons d rest ih =>
      have hrest := ih (writable_follow (w := w) d h) fun label => keyedAt_follow d h (hg label)
      show (followAll w rest (d.follow w s)).graph.lastingAt k uid = _
      rw [hrest]
      unfold notificationsOf
      by_cases hk : d.kind = k
      · subst hk
        rw [List.filter_cons_of_pos (by simp), List.map_cons, List.map_cons,
          NodeChange.applyAll_cons, lastingAt_follow d h (hg _)]
      · rw [List.filter_cons_of_neg (by simpa using hk)]
        congr 1
        unfold Graph.lastingAt
        rw [propertiesAt_follow_of_ne d h (hg _)]
        intro other heq
        exact hk (Kind.name_injective (NodeKey.ofObject_inj.mp heq).1.symm)

/-- A key that is of no kind among `dispatches` has the same properties after `followAll`. -/
theorem followAll_propertiesAt_of_ne (dispatches : List Dispatch) (h : s.writable = true)
    (hg : ∀ label, s.graph.KeyedAt label) {κ : NodeKey}
    (hκ : ∀ d ∈ dispatches, ∀ uid, κ ≠ .ofObject d.kind.name uid) :
    (followAll w dispatches s).graph.propertiesAt κ = s.graph.propertiesAt κ := by
  induction dispatches generalizing s with
  | nil => rfl
  | cons d rest ih =>
      have hrest := ih (writable_follow (w := w) d h) (fun label => keyedAt_follow d h (hg label))
        fun r hr => hκ r (List.mem_cons_of_mem _ hr)
      show (followAll w rest (d.follow w s)).graph.propertiesAt κ = _
      rw [hrest, propertiesAt_follow_of_ne d h (hg _) (hκ d (by simp))]

end Dispatch
end ClusterGraph
