import ClusterGraph.Store.Memory

/-!
# ClusterGraph.Proofs.Store.Unreliable

**What a call does to a graph if it succeeds, and a store of which any call may fail.**

A call that fails leaves the graph as it was, and one that succeeds does to it what its
arguments say and nothing else (`Call.effect`). So a store has two things to do with a call, be
it a store that is not writable, one that refuses a name, or one whose calls fail at times that
nobody can foresee (`UnreliableStore`).
-/

namespace ClusterGraph

namespace Call

/-- What a call does to the graph if it succeeds. -/
def effect : Call → Graph → Graph
  | upsert _ labels properties key, g =>
      match (storedProperties properties).find? key with
      | none => g
      | some value => g.upsert labels key value (storedProperties properties)
  | delete label key value, g => g.removeWhere (·.isMeantBy ⟨label, key, value, none⟩)
  | link source rel target, g => g.link source rel target
  | sweepClusters id, g => g.removeWhere (·.isStaleCluster id)
  | sweepLabel label id, g =>
      if label = Label.event then g
      else g.removeWhere fun n => n.hasLabel label && n.isStale id
  | sweepAll id, g => g.removeWhere fun n => !n.hasLabel Label.event && n.isStale id
  | pruneEvents cluster cutoff, g => g.removeWhere (·.isExpiredEvent cluster cutoff.format)
  | list _ _, g => g
  | count _, g => g
  | health, g => g

/-- Case analysis of `effect`: an upsert, a removal, a link, or nothing. -/
theorem effect_cases (c : Call) (g : Graph) :
    (∃ mode labels properties key value, c = .upsert mode labels properties key
        ∧ (storedProperties properties).find? key = some value
        ∧ c.effect g = g.upsert labels key value (storedProperties properties))
      ∨ (∃ test, c.effect g = g.removeWhere test)
      ∨ (∃ source rel target, c.effect g = g.link source rel target)
      ∨ c.effect g = g := by
  cases c with
  | upsert mode labels properties key =>
      simp only [effect]
      cases hvalue : (storedProperties properties).find? key with
      | none => exact .inr (.inr (.inr rfl))
      | some value => exact .inl ⟨mode, labels, properties, key, value, rfl, hvalue, rfl⟩
  | delete => exact .inr (.inl ⟨_, rfl⟩)
  | link => exact .inr (.inr (.inl ⟨_, _, _, rfl⟩))
  | sweepClusters => exact .inr (.inl ⟨_, rfl⟩)
  | sweepLabel label id =>
      simp only [effect]
      split
      · exact .inr (.inr (.inr rfl))
      · exact .inr (.inl ⟨_, rfl⟩)
  | sweepAll => exact .inr (.inl ⟨_, rfl⟩)
  | pruneEvents => exact .inr (.inl ⟨_, rfl⟩)
  | list => exact .inr (.inr (.inr rfl))
  | count => exact .inr (.inr (.inr rfl))
  | health => exact .inr (.inr (.inr rfl))

end Call

namespace MemoryStore

/-- Case analysis of `MemoryStore.perform`: the call fails and the graph stays as it is, or it
succeeds and has its `effect`. -/
theorem perform_cases (c : Call) (s : MemoryStore) :
    ((∃ e, (perform c s).1 = .error e) ∧ (perform c s).2.graph = s.graph)
      ∨ ((∃ a, (perform c s).1 = .ok a) ∧ (perform c s).2.graph = c.effect s.graph) := by
  have harrival := graph_arrival c s
  unfold perform
  generalize arrival c s = t at harrival
  dsimp only
  split
  · exact .inl ⟨⟨_, rfl⟩, harrival⟩
  · rw [← harrival]
    cases c with
    | upsert mode labels properties key =>
        simp only [answer, settle, upsert, Call.effect]
        cases Statement.upsert labels key with
        | error e => exact .inl ⟨⟨_, rfl⟩, rfl⟩
        | ok _ =>
            cases (storedProperties properties).find? key with
            | none => exact .inl ⟨⟨_, rfl⟩, rfl⟩
            | some value => exact .inr ⟨⟨_, rfl⟩, rfl⟩
    | delete label key value =>
        simp only [answer, settle, delete]
        cases Statement.delete label key with
        | error e => exact .inl ⟨⟨_, rfl⟩, rfl⟩
        | ok _ => exact .inr ⟨⟨_, rfl⟩, rfl⟩
    | link source rel target =>
        simp only [answer, settle, link]
        cases Statement.relationship source rel target with
        | error e => exact .inl ⟨⟨_, rfl⟩, rfl⟩
        | ok _ => exact .inr ⟨⟨_, rfl⟩, rfl⟩
    | sweepLabel label id =>
        simp only [answer, Call.effect]
        split
        · exact .inr ⟨⟨_, rfl⟩, rfl⟩
        · exact .inr ⟨⟨_, rfl⟩, rfl⟩
    | _ => exact .inr ⟨⟨_, rfl⟩, rfl⟩

/-- A call that fails leaves the graph as it is. -/
theorem graph_of_error {c : Call} {s : MemoryStore} {e : StoreError}
    (h : (perform c s).1 = .error e) : (perform c s).2.graph = s.graph := by
  rcases perform_cases c s with ⟨-, hkept⟩ | ⟨⟨a, ha⟩, -⟩
  · exact hkept
  · cases h.symm.trans ha

end MemoryStore

/-- A store whose calls may fail before they reach it: `failure?` decides by the call and by how
many were `made` before. -/
structure UnreliableStore where
  store : MemoryStore
  failure? : Nat → Call → Option StoreError
  made : Nat

namespace UnreliableStore

/-- The unreliable store before any call. -/
def ofStore (store : MemoryStore) (failure? : Nat → Call → Option StoreError) :
    UnreliableStore :=
  ⟨store, failure?, 0⟩

/-- The graph of the store behind. -/
def graph (s : UnreliableStore) : Graph :=
  s.store.graph

/-- Let the call fail if `failure?` says so, and otherwise let the store behind answer it. -/
def perform : Plan.Performer UnreliableStore := fun c s =>
  match s.failure? s.made c with
  | some e => (.error e, { s with made := s.made + 1 })
  | none =>
      let (answer, store) := s.store.perform c
      (answer, { s with store, made := s.made + 1 })

variable {c : Call} {s : UnreliableStore}

theorem perform_of_success (h : s.failure? s.made c = none) :
    perform c s
      = ((s.store.perform c).1, { s with store := (s.store.perform c).2, made := s.made + 1 }) := by
  unfold perform
  rw [h]

/-- Case analysis of `UnreliableStore.perform`: the call fails and the graph stays as it is, or it
succeeds and has its `effect`. -/
theorem perform_cases (c : Call) (s : UnreliableStore) :
    ((∃ e, (perform c s).1 = .error e) ∧ (perform c s).2.graph = s.graph)
      ∨ ((∃ a, (perform c s).1 = .ok a) ∧ (perform c s).2.graph = c.effect s.graph) := by
  cases h : s.failure? s.made c with
  | some e =>
      unfold perform
      rw [h]
      exact .inl ⟨⟨e, rfl⟩, rfl⟩
  | none =>
      rw [perform_of_success h]
      exact s.store.perform_cases c

/-- A call that fails leaves the graph as it is. -/
theorem graph_of_error {e : StoreError} (h : (perform c s).1 = .error e) :
    (perform c s).2.graph = s.graph := by
  rcases perform_cases c s with ⟨-, hkept⟩ | ⟨⟨a, ha⟩, -⟩
  · exact hkept
  · cases h.symm.trans ha

/-- An upsert leaves the edges as they are. -/
theorem edges_perform_upsert (mode : WriteMode) (labels : List String) (properties : Dict Json)
    (key : String) (s : UnreliableStore) :
    (perform (.upsert mode labels properties key) s).2.graph.edges = s.graph.edges := by
  rcases perform_cases (.upsert mode labels properties key) s with ⟨-, hkept⟩ | ⟨-, heffect⟩
  · rw [hkept]
  · rw [heffect, Call.effect]
    split
    · rfl
    · exact Graph.edges_upsert _ _ _ _ _

/-- Performing a call does not change which calls fail. -/
@[simp] theorem failure?_perform (c : Call) (s : UnreliableStore) :
    (perform c s).2.failure? = s.failure? := by
  unfold perform
  split <;> rfl

end UnreliableStore

end ClusterGraph
