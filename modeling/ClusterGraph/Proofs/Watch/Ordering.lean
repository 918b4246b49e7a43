import ClusterGraph.Proofs.Projection.Sequence
import ClusterGraph.Proofs.Watch.Relisting

/-!
# ClusterGraph.Proofs.Watch.Ordering

**The deletions that end a listing may be told in any order.**

`RelistTracker.complete` tells of what is missing in the order of the identifiers. A tracker that
keeps what it knows in a hash map has no such order, so nothing may hang on it. A deletion takes
away the nodes that one test picks, and has a result that does not depend on the graph
(`Sync.removes_delete`). So any two of them commute (`Dispatch.IsRemoval.comm`), and a whole run
comes to the same whatever the orders of its deletions are (`RelistTracker.comesTo_run_of_perm`).
-/

namespace ClusterGraph

/-! ## One deletion -/

/-- A plan that only takes nodes away. In a store that is `writable`, or in one that is not, it has
one result and removes the nodes that one test picks, whatever nodes there are. -/
def Plan.Removes (plan : Plan (Except SyncError Unit)) (writable : Bool) : Prop :=
  ∃ (result : Except SyncError Unit) (test : Node → Bool), ∀ s : MemoryStore,
    s.writable = writable
      → plan.run MemoryStore.perform s = (result, s.withGraph (s.graph.removeWhere test))

theorem MemoryStore.withGraph_removeWhere_false (s : MemoryStore) :
    s.withGraph (s.graph.removeWhere fun _ => false) = s := by
  rw [Graph.removeWhere_of_forall_not fun _ _ => rfl]
  rfl

theorem Plan.removes_done (result : Except SyncError Unit) (writable : Bool) :
    (Plan.done result).Removes writable := by
  refine ⟨result, fun _ => false, fun s _ => ?_⟩
  rw [s.withGraph_removeWhere_false]
  rfl

theorem Sync.removes_delete (k : Kind) (raw : RawObject) (writable : Bool) :
    (delete k raw).Removes writable := by
  by_cases hk : k = .event
  · rw [show delete k raw = .done (.ok ()) by simp [delete, hk]]
    exact Plan.removes_done ..
  cases hrequire : raw.requireUid k.name with
  | error e =>
      rw [show delete k raw = .done (.error (.conversion e)) by simp [delete, hk, hrequire]]
      exact Plan.removes_done ..
  | ok uid =>
      rw [delete_of_requireUid hk hrequire]
      cases writable with
      | true =>
          refine ⟨.ok (), (·.isMeantBy (.byUid k.name uid)), fun s hs => ?_⟩
          rw [Plan.run_call, MemoryStore.perform_delete k.isIdentifier_name uid hs]
          rfl
      | false =>
          refine ⟨.error (.store .unavailable), fun _ => false, fun s hs => ?_⟩
          have hfails : MemoryStore.perform (.delete k.name Key.uid uid) s
              = (.error .unavailable, s) := by
            simp [MemoryStore.perform, MemoryStore.arrival, Call.needsWriter, hs]
          rw [Plan.run_call, hfails, s.withGraph_removeWhere_false]
          rfl

/-! ## Deletions side by side -/

namespace Dispatch

/-- Run the plans of the dispatches one after the other, in the way of `followAll`, and pair each
with its result. -/
def outcomes (w : Writer) : List Dispatch → MemoryStore → List (Dispatch × Except SyncError Unit)
  | [], _ => []
  | d :: rest, s =>
      (d, ((d.plan w).run MemoryStore.perform s).1) :: outcomes w rest (d.follow w s)

theorem outcomes_append (w : Writer) (first second : List Dispatch) (s : MemoryStore) :
    outcomes w (first ++ second) s
      = outcomes w first s ++ outcomes w second (followAll w first s) := by
  induction first generalizing s with
  | nil => rfl
  | cons d rest ih => exact congrArg (List.cons _) (ih _)

/-- Two lists of dispatches that come to the same, in any store: `followAll` leaves the same store,
and the `outcomes` are the same but for their order. -/
def ComesTo (w : Writer) (first second : List Dispatch) : Prop :=
  ∀ s, followAll w first s = followAll w second s
    ∧ (outcomes w first s).Perm (outcomes w second s)

theorem ComesTo.refl (w : Writer) (ds : List Dispatch) : ComesTo w ds ds :=
  fun _ => ⟨rfl, List.Perm.refl _⟩

theorem ComesTo.append {w : Writer} {first first' second second' : List Dispatch}
    (h : ComesTo w first first') (h' : ComesTo w second second') :
    ComesTo w (first ++ second) (first' ++ second') := by
  intro s
  obtain ⟨hstore, houtcomes⟩ := h s
  obtain ⟨hstore', houtcomes'⟩ := h' (followAll w first s)
  constructor
  · unfold followAll at hstore hstore' ⊢
    rw [List.foldl_append, List.foldl_append, hstore', hstore]
  · rw [outcomes_append, outcomes_append, ← hstore]
    exact houtcomes.append houtcomes'

/-- The notification of the dispatch is a `.delete` or the `.synced` marker. -/
def IsRemoval (d : Dispatch) : Prop :=
  (∃ raw, d.notification = .delete raw) ∨ d.notification = .synced

theorem IsRemoval.removes {d : Dispatch} (h : d.IsRemoval) (w : Writer) (writable : Bool) :
    (d.plan w).Removes writable := by
  obtain ⟨time, k, n⟩ := d
  rcases h with ⟨raw, rfl⟩ | rfl
  · exact Sync.removes_delete k raw writable
  · exact Plan.removes_done ..

/-- A removal `e` has the same result before and after another one, `d`, and the store is the same
whichever comes first. -/
theorem IsRemoval.comm {d e : Dispatch} (hd : d.IsRemoval) (he : e.IsRemoval) (w : Writer)
    (s : MemoryStore) :
    ((e.plan w).run MemoryStore.perform (d.follow w s)).1 = ((e.plan w).run MemoryStore.perform s).1
      ∧ e.follow w (d.follow w s) = d.follow w (e.follow w s) := by
  obtain ⟨_, first, hfirst⟩ := hd.removes w s.writable
  obtain ⟨_, second, hsecond⟩ := he.removes w s.writable
  have hd' : d.follow w s = s.withGraph (s.graph.removeWhere first) :=
    congrArg Prod.snd (hfirst s rfl)
  have he' : e.follow w s = s.withGraph (s.graph.removeWhere second) :=
    congrArg Prod.snd (hsecond s rfl)
  constructor
  · rw [hd', hsecond (s.withGraph (s.graph.removeWhere first)) rfl, hsecond s rfl]
  · unfold follow at hd' he' ⊢
    rw [hd', he', hsecond (s.withGraph (s.graph.removeWhere first)) rfl,
      hfirst (s.withGraph (s.graph.removeWhere second)) rfl]
    show s.withGraph ((s.graph.removeWhere first).removeWhere second)
      = s.withGraph ((s.graph.removeWhere second).removeWhere first)
    rw [Graph.removeWhere_removeWhere, Graph.removeWhere_removeWhere]
    simp only [Bool.or_comm]

/-- Where every dispatch `IsRemoval`, `outcomes` gives each the result that its plan has in the
store `s` itself. -/
theorem outcomes_of_removals {w : Writer} {ds : List Dispatch} (h : ∀ d ∈ ds, d.IsRemoval)
    (s : MemoryStore) :
    outcomes w ds s = ds.map fun d => (d, ((d.plan w).run MemoryStore.perform s).1) := by
  induction ds generalizing s with
  | nil => rfl
  | cons d rest ih =>
      rw [List.forall_mem_cons] at h
      rw [outcomes, ih h.2, List.map_cons]
      congr 1
      refine List.map_congr_left fun e he => ?_
      rw [(h.1.comm (h.2 e he) w s).1]

/-- Two lists of removals that are permutations of each other are equivalent under `ComesTo`. -/
theorem comesTo_of_removals {w : Writer} {ds ds' : List Dispatch} (hperm : ds.Perm ds')
    (h : ∀ d ∈ ds', d.IsRemoval) : ComesTo w ds ds' := by
  have hds : ∀ d ∈ ds, d.IsRemoval := fun d hd => h d (hperm.mem_iff.mp hd)
  intro s
  constructor
  · exact hperm.foldl_eq' (fun d hd e he z => ((hds d hd).comm (hds e he) w z).2) s
  · rw [outcomes_of_removals hds, outcomes_of_removals h]
    exact hperm.map _

end Dispatch

/-! ## What a watch tells -/

namespace RelistTracker

variable {t : RelistTracker}

/-- Case analysis of `step`: it tells one notification at most, or only deletions and markers. -/
theorem step_cases (t : RelistTracker) (e : WatchEvent) :
    (t.step e).1.length ≤ 1
      ∨ ∀ n ∈ (t.step e).1, (∃ raw, n = .delete raw) ∨ n = .synced := by
  cases e with
  | init => exact .inl (Nat.zero_le 1)
  | initApply o | apply o | delete o => exact .inl (Nat.le_refl 1)
  | initDone =>
      refine .inr fun n (hn : n ∈ t.complete.1 ++ [.synced]) => ?_
      rcases List.mem_append.mp hn with hn | hn
      · unfold complete at hn
        cases hlisted : t.listed with
        | none =>
            rw [hlisted] at hn
            cases hn
        | some listed =>
            rw [hlisted] at hn
            obtain ⟨entry, -, rfl⟩ := List.mem_map.mp hn
            exact .inl ⟨_, rfl⟩
      · exact .inr (List.mem_singleton.mp hn)

/-- The notifications `told`, each as a `Dispatch` of kind `k` at the time `now`. -/
def dispatches (now : Instant) (k : Kind) (told : List Notification) : List Dispatch :=
  told.map fun n => ⟨now, k, n⟩

/-- Step lemma: to follow what is told with one event comes to the same in any order. -/
theorem comesTo_step_of_perm (w : Writer) (now : Instant) (k : Kind) {e : WatchEvent}
    {block : List Notification} (h : block.Perm (t.step e).1) :
    Dispatch.ComesTo w (dispatches now k block) (dispatches now k (t.step e).1) := by
  rcases step_cases t e with hone | hremovals
  · cases htold : (t.step e).1 with
    | nil =>
        rw [htold] at h
        rw [h.eq_nil]
        exact Dispatch.ComesTo.refl w _
    | cons n more =>
        rw [htold, List.length_cons] at hone
        have hmore : more = [] := List.eq_nil_of_length_eq_zero (by omega)
        rw [htold, hmore] at h
        rw [hmore, List.perm_singleton.mp h]
        exact Dispatch.ComesTo.refl w _
  · refine Dispatch.comesTo_of_removals (h.map _) fun d hd => ?_
    obtain ⟨n, hn, rfl⟩ := List.mem_map.mp hd
    exact hremovals n hn

/-- Run lemma over `comesTo_step_of_perm`. The deletions that end a listing are told by `complete`
in the order of the identifiers, because `known` is ordered. A tracker that remembers in a hash map
tells them in some other order: `told` is what it tells, event by event. To follow `told` comes to
the same: the store is the same in the end, and every notification has the result that it has
here. -/
theorem comesTo_run_of_perm (w : Writer) (now : Instant) (k : Kind) {events : List WatchEvent}
    {told : List (List Notification)} (h : List.Forall₂ List.Perm told (t.run events).1) :
    Dispatch.ComesTo w (dispatches now k told.flatten)
      (dispatches now k (t.run events).1.flatten) := by
  induction events generalizing t told with
  | nil =>
      cases h
      exact Dispatch.ComesTo.refl w _
  | cons e rest ih =>
      have hrun : (t.run (e :: rest)).1 = (t.step e).1 :: ((t.step e).2.run rest).1 := rfl
      rw [hrun] at h ⊢
      obtain ⟨block, more, hblock, hmore, rfl⟩ := List.forall₂_cons_right_iff.mp h
      have hfirst := comesTo_step_of_perm w now k hblock
      rw [List.flatten_cons, List.flatten_cons]
      unfold dispatches at hfirst ih ⊢
      rw [List.map_append, List.map_append]
      exact hfirst.append (ih hmore)

end RelistTracker

end ClusterGraph
