import ClusterGraph.Proofs.Pipeline.Accounting
import ClusterGraph.Proofs.Projection.Sequence

/-!
# ClusterGraph.Proofs.Pipeline.Reflecting

**At every moment the store shows, of each object, what the notifications made of it that are
done, and the one whose first call has been made.**

Many workers write to one store, so nothing can be said of the store as a whole. But an entry
belongs to one kind and one identifier, and only one worker ever touches it: that of the lane to
which the identifier leads. So the entry changes when this worker makes the first call of a plan,
and stays as it is while any other worker of any kind makes any call (`Consumer.Reflects`). What
was done by other lanes in the meantime does not count, since it was about other objects.

A worker that is stopped by cancellation leaves it open whether its notification shows. But it was
the next of those that were read for the lane, so where all that was read is done, nothing is open.
-/

namespace ClusterGraph

/-- The environment of an instance that writes as `w` to a graph in memory, with lanes that hold
`buffer` messages. -/
def Environment.inMemory (w : Writer) (buffer lanes : Nat) : Environment MemoryStore :=
  { Environment.ofWriter MemoryStore.perform w lanes with buffer }

/-! ## Workers that follow objects -/

namespace Worker

/-- What the worker has made of the nodes so far, as a list `ns` of one notification or none: none
while its plan is still the whole plan of the notification, and the notification as soon as only
calls are left that keep nodes (`Plan.KeepsNodes`). Nothing is said of a worker that has stopped. -/
def Applied (w : Writer) (k : Kind) (worker : Worker) (ns : List Notification) : Prop :=
  match worker with
  | .idle => ns = []
  | .handling n rest =>
      (∃ now, rest = Environment.followObject w now k n ∧ ns = []) ∨ (rest.KeepsNodes ∧ ns = [n])
  | .stopped => True

section Applied

variable {w : Writer} {k : Kind} {n : Notification} {ns : List Notification} {q : Call}
  {next : Except StoreError q.Answer → Plan (Except SyncError Unit)}

theorem Applied.isOf (h : (handling n (.call q next)).Applied w k ns) : q.IsOf k.name := by
  rcases h with ⟨now, hplan, -⟩ | ⟨hkeeps, -⟩
  · refine (Follows.followObject w now k n).isOf q ?_
    rw [← hplan]
    exact .here
  · exact .keeps (hkeeps q .here)

/-- A call that changes the nodes of `uid` is made by a worker that handles a notification about
`uid`. -/
theorem Applied.uid?_of_change (h : (handling n (.call q next)).Applied w k ns)
    (hobject : n.IsOfObject) {uid : String} (hchange : q.change uid ≠ .keep) :
    n.uid? = some uid := by
  rcases h with ⟨now, hplan, -⟩ | ⟨hkeeps, -⟩
  · have hsame : n.change w now k uid = q.change uid := by
      unfold Notification.change
      rw [← hplan]
      rfl
    exact Notification.uid?_of_change hobject (hsame ▸ hchange)
  · exact absurd (Call.change_of_keepsNodes (hkeeps q .here) uid) hchange

/-- When a worker makes the call `q`, what it has made of the nodes becomes its whole notification,
and for each `uid` this is the change by `q`. -/
theorem Applied.call (h : (handling n (.call q next)).Applied w k ns)
    (answer : Except StoreError q.Answer) :
    (handling n (next answer)).Applied w k [n] ∧ ∀ uid found,
      NodeChange.applyAll ([n].map (Notification.lastingChange w k uid)) found
        = ((q.change uid).map (Node.lasting [k.name])).apply
            (NodeChange.applyAll (ns.map (Notification.lastingChange w k uid)) found) := by
  rcases h with ⟨now, hplan, rfl⟩ | ⟨hkeeps, rfl⟩
  · have hfirst := (Follows.followObject w now k n).changesFirst
    rw [← hplan] at hfirst
    refine ⟨.inr ⟨hfirst answer, rfl⟩, fun uid found => ?_⟩
    have hsame : n.change w now k uid = q.change uid := by
      unfold Notification.change
      rw [← hplan]
      rfl
    rw [← hsame, Notification.map_change]
    rfl
  · refine ⟨.inr ⟨hkeeps.next answer, rfl⟩, fun uid found => ?_⟩
    rw [Call.change_of_keepsNodes (hkeeps q .here)]
    rfl

/-- A worker whose plan is `done` has made of the nodes all that its notification calls for. -/
theorem Applied.finish {result : Except SyncError Unit}
    (h : (handling n (.done result)).Applied w k ns) (uid : String) (found : List Properties) :
    NodeChange.applyAll (ns.map (Notification.lastingChange w k uid)) found
      = (n.lastingChange w k uid).apply found := by
  rcases h with ⟨now, hplan, rfl⟩ | ⟨-, rfl⟩
  · have hkeep : n.change w now k uid = .keep := by
      unfold Notification.change
      rw [← hplan]
      rfl
    rw [← Notification.map_change w now, hkeep]
    rfl
  · rfl

end Applied

end Worker

/-! ## What one call does to the entries of a kind -/

namespace MemoryStore

/-- How a call about objects of `k` changes the entry of an object of `k` (`Call.change`), in a
store that can be written. -/
theorem lastingAt_perform {k : Kind} {q : Call} (hq : q.IsOf k.name) {s : MemoryStore}
    (h : s.writable = true) (hg : s.graph.KeyedAt k.name) (uid : String) :
    (perform q s).2.graph.lastingAt k uid
      = ((q.change uid).map (Node.lasting [k.name])).apply (s.graph.lastingAt k uid) := by
  unfold Graph.lastingAt
  rw [propertiesAt_perform k.isIdentifier_name hq h hg, NodeChange.map_apply]

/-- A call about objects of `k` leaves the entries of every `other` kind alone. -/
theorem lastingAt_perform_other {k other : Kind} (hne : other ≠ k) {q : Call}
    (hq : q.IsOf k.name) {s : MemoryStore} (h : s.writable = true) (uid : String) :
    (perform q s).2.graph.lastingAt other uid = s.graph.lastingAt other uid := by
  unfold Graph.lastingAt NodeKey.ofObject
  rw [propertiesAt_perform_other k.isIdentifier_name hq h
    fun heq => hne (Kind.name_injective heq).symm]

end MemoryStore

/-! ## Consumers that follow objects -/

namespace Consumer

/-- The worker of each lane has made something of the nodes, in the sense of `Applied`. -/
def FollowsObjects (w : Writer) (c : Consumer) : Prop :=
  ∀ l ∈ c.lanes, ∃ ns, l.worker.Applied w c.kind ns

/-- Refinement relation of a consumer: for each `uid`, the entry in the store is the one in `g`
changed by the notifications that are done on the lane of `uid`, and then by what its worker has
made of the one that it is at (`Applied`), which was read next. -/
def Reflects (w : Writer) (g : Graph) (s : MemoryStore) (c : Consumer) (own : List Observation) :
    Prop :=
  ∀ (uid : String) (i : Nat) (l : Lane), laneFor (some uid) c.lanes.length = i →
    c.lanes[i]? = some l → ∃ ns, l.worker.Applied w c.kind ns
      ∧ onLane c.lanes.length i (workDone own) ++ ns <+: onLane c.lanes.length i (workRead own)
      ∧ s.graph.lastingAt c.kind uid
        = NodeChange.applyAll ((workDone own ++ ns).map (Notification.lastingChange w c.kind uid))
            (g.lastingAt c.kind uid)

section Steps

variable {w : Writer} {buffer lanes : Nat} {c : Consumer} {s : Shared MemoryStore}
  {o : ConsumerOutcome MemoryStore} {own : List Observation} {g : Graph}

/-- A step of a consumer leaves the store as it is, or performs one call that is about objects of
its kind. -/
theorem Step.store_cases (hstep : Step (.inMemory w buffer lanes) c s o)
    (h : c.FollowsObjects w) :
    o.shared.store = s.store
      ∨ ∃ q : Call, q.IsOf c.kind.name ∧ o.shared.store = (MemoryStore.perform q s.store).2 := by
  cases hstep with
  | @call i l n q next hlane hworker =>
      obtain ⟨ns, happlied⟩ := h l (List.mem_of_getElem? hlane)
      rw [hworker] at happlied
      exact .inr ⟨q, happlied.isOf, rfl⟩
  | _ => exact .inl rfl

theorem FollowsObjects.set (h : c.FollowsObjects w) {i : Nat} {l' : Lane}
    (hl' : ∃ ns, l'.worker.Applied w c.kind ns) :
    ∀ l ∈ c.lanes.set i l', ∃ ns, l.worker.Applied w c.kind ns := by
  intro l hl
  rcases List.mem_or_eq_of_mem_set hl with hl | rfl
  · exact h l hl
  · exact hl'

theorem Step.followsObjects (hstep : Step (.inMemory w buffer lanes) c s o)
    (h : c.FollowsObjects w) : o.consumer.FollowsObjects w := by
  cases hstep with
  | @send n i l _ _ hlane => exact h.set (h l (List.mem_of_getElem? hlane))
  | @flush i l _ hlane => exact h.set (h l (List.mem_of_getElem? hlane))
  | @take i l n rest hlane => exact h.set ⟨[], .inl ⟨s.now, rfl, rfl⟩⟩
  | @answer i l rest hlane => exact h.set (h l (List.mem_of_getElem? hlane))
  | @call i l n q next hlane hworker =>
      obtain ⟨ns, happlied⟩ := h l (List.mem_of_getElem? hlane)
      rw [hworker] at happlied
      exact h.set ⟨[n], (happlied.call (MemoryStore.perform q s.store).1).1⟩
  | @finish i l n result metrics hlane => exact h.set ⟨[], rfl⟩
  | @halt i l hlane => exact h.set ⟨[], trivial⟩
  | _ => exact h

/-- The relation is kept if the store stays the same, nothing is done, and each worker has made of
the nodes what it had. -/
theorem Reflects.congr {store : MemoryStore} (h : c.Reflects w g store own) {d : Consumer}
    {more : List Observation} (hkind : d.kind = c.kind) (hlength : d.lanes.length = c.lanes.length)
    (hdone : workDone more = [])
    (hlanes : ∀ (i : Nat) (l : Lane), d.lanes[i]? = some l → ∃ l₀, c.lanes[i]? = some l₀
      ∧ ∀ ns, l₀.worker.Applied w c.kind ns → l.worker.Applied w c.kind ns) :
    d.Reflects w g store (own ++ more) := by
  intro uid i l hi hl
  rw [hlength] at hi
  obtain ⟨l₀, hl₀, happlied⟩ := hlanes i l hl
  obtain ⟨ns, hns, hnext, hentry⟩ := h uid i l₀ hi hl₀
  rw [hkind, hlength, workDone_append, hdone, List.append_nil, workRead_append, onLane_append]
  exact ⟨ns, happlied ns hns, hnext.trans (List.prefix_append _ _), hentry⟩

theorem Reflects.set {store : MemoryStore} (h : c.Reflects w g store own) {d : Consumer}
    {more : List Observation} {i : Nat} {l l' : Lane} (hkind : d.kind = c.kind)
    (hset : d.lanes = c.lanes.set i l') (hlane : c.lanes[i]? = some l)
    (hdone : workDone more = [])
    (happlied : ∀ ns, l.worker.Applied w c.kind ns → l'.worker.Applied w c.kind ns) :
    d.Reflects w g store (own ++ more) := by
  refine h.congr hkind (by rw [hset, List.length_set]) hdone fun j m hm => ?_
  rw [hset] at hm
  rcases getElem?_set_cases hm with ⟨rfl, rfl⟩ | ⟨-, hm⟩
  · exact ⟨l, hlane, happlied⟩
  · exact ⟨m, hm, fun ns hns => hns⟩

/-- The relation is kept by the action `call`: the entry of the object that the worker is at changes
by it, and all others stay. -/
theorem Reflects.call (h : c.Reflects w g s.store own) (horder : c.InOrder own)
    (hobjects : ∀ n ∈ workRead own, n.IsOfObject) (hwritable : s.store.writable = true)
    (hkeyed : s.store.graph.KeyedAt c.kind.name) {i : Nat} {l : Lane} {n : Notification}
    {q : Call} {next : Except StoreError q.Answer → Plan (Except SyncError Unit)}
    (hlane : c.lanes[i]? = some l) (hworker : l.worker = .handling n (.call q next))
    (hfollows : ∃ ns, l.worker.Applied w c.kind ns) :
    (c.setLane i { l with worker := .handling n (next (MemoryStore.perform q s.store).1) }).Reflects
      w g (MemoryStore.perform q s.store).2 own := by
  intro uid j m hj hm
  have hlength : (c.setLane i { l with
      worker := .handling n (next (MemoryStore.perform q s.store).1) }).lanes.length
        = c.lanes.length := List.length_set
  rw [hlength] at hj ⊢
  rw [hworker] at hfollows
  obtain ⟨ns₀, hfollows⟩ := hfollows
  have hcurrent := Lane.current_of_handling hworker
  show ∃ ns, m.worker.Applied w c.kind ns ∧ _
    ∧ (MemoryStore.perform q s.store).2.graph.lastingAt c.kind uid = _
  rw [MemoryStore.lastingAt_perform hfollows.isOf hwritable hkeyed]
  rcases getElem?_set_cases hm with ⟨rfl, rfl⟩ | ⟨hne, hm⟩
  -- The entry belongs to the lane of the worker: it shows what the call makes of it.
  · obtain ⟨ns, happlied, -, hentry⟩ := h uid j l hj hlane
    rw [hworker] at happlied
    obtain ⟨happlied', heffect⟩ := happlied.call (MemoryStore.perform q s.store).1
    refine ⟨[n], happlied', hcurrent ▸ horder.done j l hlane, ?_⟩
    rw [hentry, List.map_append, List.map_append, NodeChange.applyAll_append,
      NodeChange.applyAll_append]
    exact (heffect uid _).symm
  -- It belongs to another: a call that touched it would be about an object of that lane.
  · obtain ⟨ns, happlied, hnext, hentry⟩ := h uid j m hj hm
    refine ⟨ns, happlied, hnext, ?_⟩
    obtain ⟨hread, hbelongs⟩ := horder.mem_workRead_of_mem_current hlane (n := n)
      (by rw [hcurrent]; exact List.mem_singleton_self n)
    have hkeep : q.change uid = .keep := by
      refine Classical.byContradiction fun hchange => hne ?_
      rw [← hj, ← hbelongs, hfollows.uid?_of_change (hobjects n hread) hchange]
    rw [hkeep, hentry]
    rfl

/-- The relation is kept by the action `finish`: the notification now counts as done. -/
theorem Reflects.finish {store : MemoryStore} (h : c.Reflects w g store own)
    (horder : c.InOrder own) (hobjects : ∀ n ∈ workRead own, n.IsOfObject) {i : Nat}
    {l : Lane} {n : Notification} {result : Except SyncError Unit} (hlane : c.lanes[i]? = some l)
    (hworker : l.worker = .handling n (.done result)) {more : List Observation}
    (hread : workRead more = []) (hdone : workDone more = [n]) :
    (c.setLane i { l with worker := .idle }).Reflects w g store (own ++ more) := by
  intro uid j m hj hm
  have hlength : (c.setLane i { l with worker := .idle }).lanes.length = c.lanes.length :=
    List.length_set
  rw [hlength] at hj ⊢
  have hcurrent := Lane.current_of_handling hworker
  obtain ⟨hmem, hbelongs⟩ := horder.mem_workRead_of_mem_current hlane (n := n)
    (by rw [hcurrent]; exact List.mem_singleton_self n)
  rw [workDone_append, hdone, workRead_append, hread, List.append_nil, onLane_append,
    onLane_singleton, hbelongs]
  rcases getElem?_set_cases hm with ⟨rfl, rfl⟩ | ⟨hne, hm⟩
  · obtain ⟨ns, happlied, -, hentry⟩ := h uid j l hj hlane
    rw [hworker] at happlied
    have hnext := horder.done j l hlane
    rw [hcurrent] at hnext
    refine ⟨[], rfl, by rwa [if_pos rfl, List.append_nil], ?_⟩
    show store.graph.lastingAt c.kind uid = _
    rw [hentry, List.map_append, NodeChange.applyAll_append, happlied.finish, List.append_nil,
      List.map_append, NodeChange.applyAll_append]
    rfl
  · obtain ⟨ns, happlied, hnext, hentry⟩ := h uid j m hj hm
    refine ⟨ns, happlied, by rwa [if_neg (Ne.symm hne), List.append_nil], ?_⟩
    have hkeep : n.lastingChange w c.kind uid = .keep := by
      refine Notification.lastingChange_eq_keep (hobjects n hmem) fun huid => hne ?_
      rw [← hj, ← hbelongs, huid]
    show store.graph.lastingAt c.kind uid = NodeChange.applyAll
      ((workDone own ++ [n] ++ ns).map (Notification.lastingChange w c.kind uid)) _
    rw [hentry, List.map_append, List.map_append, List.map_append, NodeChange.applyAll_append,
      NodeChange.applyAll_append, NodeChange.applyAll_append, List.map_singleton, hkeep]
    rfl

/-- Step lemma of `Reflects`: a step of the consumer keeps it. -/
theorem Step.reflects (hstep : Step (.inMemory w buffer lanes) c s o)
    (hfollows : c.FollowsObjects w) (horder : c.InOrder own)
    (hobjects : ∀ n ∈ workRead own, n.IsOfObject) (hwritable : s.store.writable = true)
    (hkeyed : s.store.graph.KeyedAt c.kind.name) (h : c.Reflects w g s.store own) :
    o.consumer.Reflects w g o.shared.store (own ++ o.seen) := by
  have hsame : ∀ (i : Nat) (l : Lane), c.lanes[i]? = some l → ∃ l₀, c.lanes[i]? = some l₀
      ∧ ∀ ns, l₀.worker.Applied w c.kind ns → l.worker.Applied w c.kind ns :=
    fun i l hl => ⟨l, hl, fun ns hns => hns⟩
  cases hstep with
  | readFailure | readMarker | readWork | await | collect | recordAgain | recordFirst | signal
  | leave | join => exact h.congr rfl rfl rfl hsame
  | @send n i l _ _ hlane => exact h.set rfl rfl hlane rfl fun ns hns => hns
  | @flush i l _ hlane => exact h.set rfl rfl hlane rfl fun ns hns => hns
  | @take i l n rest hlane hidle =>
      refine h.set rfl rfl hlane rfl fun ns hns => ?_
      rw [hidle] at hns
      exact .inl ⟨s.now, rfl, hns⟩
  | @answer i l rest hlane => exact h.set rfl rfl hlane rfl fun ns hns => hns
  | @call i l n q next hlane hworker =>
      rw [List.append_nil]
      exact h.call horder hobjects hwritable hkeyed hlane hworker
        (hfollows l (List.mem_of_getElem? hlane))
  | @finish i l n result metrics hlane hworker =>
      exact h.finish horder hobjects hlane hworker rfl rfl
  -- What the worker had made of its notification stays; it is only forgotten what it was at.
  | @halt i l hlane => exact h.set rfl rfl hlane rfl fun _ _ => trivial

/-- A step of a consumer of another kind keeps `Reflects`, as it leaves the entries of this kind
alone. -/
theorem Step.reflects_other {d : Consumer} {theirs : List Observation}
    (hstep : Step (.inMemory w buffer lanes) c s o) (hfollows : c.FollowsObjects w)
    (hwritable : s.store.writable = true) (hne : d.kind ≠ c.kind)
    (h : d.Reflects w g s.store theirs) : d.Reflects w g o.shared.store theirs := by
  rcases hstep.store_cases hfollows with hstore | ⟨q, hq, hstore⟩
  · rw [hstore]
    exact h
  · intro uid i l hi hl
    obtain ⟨ns, happlied, hnext, hentry⟩ := h uid i l hi hl
    rw [hstore, MemoryStore.lastingAt_perform_other hne hq hwritable]
    exact ⟨ns, happlied, hnext, hentry⟩

end Steps

end Consumer

/-! ## Runs -/

namespace Pipeline

/-- What is asked of the store: it can be written, and for each kind that is `tracked` every object
has at most one node (`Graph.KeyedAt`). -/
structure Receptive (tracked : Kind → Prop) (s : MemoryStore) : Prop where
  writable : s.writable = true
  keyed : ∀ k, tracked k → s.graph.KeyedAt k.name

/-- Invariant of each consumer and the store: the workers follow objects (`FollowsObjects`) in the
order in which they were read (`InOrder`), nothing is lost before cancellation (`Accounts`), and if
the kind is `tracked` its entries reflect what was done. -/
structure InStep (w : Writer) (g : Graph) (tracked : Kind → Prop) (s : MemoryStore)
    (cancelled : Bool) (c : Consumer) (own : List Observation) : Prop where
  follows : c.FollowsObjects w
  order : c.InOrder own
  accounts : cancelled = false → c.Accounts own
  reflects : tracked c.kind → (∀ n ∈ workRead own, n.IsOfObject) → c.Reflects w g s own

variable {w : Writer} {g : Graph} {tracked : Kind → Prop} {buffer lanes : Nat}

theorem Receptive.perform {s : MemoryStore} (h : Receptive tracked s) {k : Kind} {q : Call}
    (hq : q.IsOf k.name) : Receptive tracked (MemoryStore.perform q s).2 where
  writable := MemoryStore.writable_perform q h.writable
  keyed other hother :=
    MemoryStore.keyedAt_perform k.isIdentifier_name hq h.writable (h.keyed other hother)

/-- The invariant `InStep` is stable along runs in memory, and so is `Receptive`. -/
theorem stable_inStep (w : Writer) (g : Graph) (tracked : Kind → Prop) (buffer lanes : Nat) :
    Stable (.inMemory w buffer lanes) (Receptive tracked) (InStep w g tracked) where
  store hstep hG h := by
    rcases hstep.store_cases h.follows with hstore | ⟨q, hq, hstore⟩
    · rw [hstore]
      exact hG
    · rw [hstore]
      exact hG.perform hq
  own hstep hG h := by
    refine ⟨hstep.followsObjects h.follows, hstep.inOrder h.accounts h.order,
      fun hlive => hstep.accounts hlive (h.accounts hlive), fun htracked hobjects => ?_⟩
    rw [hstep.kind_eq] at htracked
    rw [workRead_append] at hobjects
    have hbefore := fun n hn => hobjects n (List.mem_append_left _ hn)
    exact hstep.reflects h.follows h.order hbefore hG.writable (hG.keyed _ htracked)
      (h.reflects htracked hbefore)
  other hstep hG hc hne h := by
    refine ⟨h.follows, h.order, h.accounts, fun htracked hobjects => ?_⟩
    exact hstep.reflects_other hc.follows hG.writable hne (h.reflects htracked hobjects)
  deliver _ _ h :=
    ⟨h.follows, ⟨h.order.lanes, h.order.done⟩, fun hlive => (h.accounts hlive).congr rfl rfl,
      h.reflects⟩
  finish h :=
    ⟨h.follows, ⟨h.order.lanes, h.order.done⟩, fun hlive => (h.accounts hlive).congr rfl rfl,
      h.reflects⟩
  cancel h := ⟨h.follows, h.order, (fun hlive => by cases hlive), h.reflects⟩

end Pipeline
end ClusterGraph
