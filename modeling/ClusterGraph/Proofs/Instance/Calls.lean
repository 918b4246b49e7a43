import ClusterGraph.Instance.Commands
import ClusterGraph.Proofs.Projection.Following
import ClusterGraph.Proofs.Store.Ownership

/-!
# ClusterGraph.Proofs.Instance.Calls

**All that an instance asks of a store is its own: what it writes it signs, be it for itself or
for an object, and what it deletes is an object's node, an old event, or swept.**

A sweep asks for deletions alone, and unless a call fails it does not end before the call that
deletes all that is left of others (`Plan.Clears`).
-/

namespace ClusterGraph

/-! ## Signatures -/

theorem Kind.name_ne_cluster (k : Kind) : k.name ≠ Label.cluster := by
  cases k <;> decide

namespace ObjectOf

theorem omittedKeys_contains (k : Kind) (key : String) :
    (omittedKeys k).contains key = decide (k.name = Label.event ∧ key = Key.instanceHash) := by
  cases k with
  | event => simp [omittedKeys, show Kind.event.name = Label.event by decide]
  | _ => simp [omittedKeys, Kind.name, Kind.type, Label.event]

/-- The properties of the node of an object are `Signed` by the instance that writes it. -/
theorem signed_fields (id : Identity) (now : Instant) (uid : String) (k : Kind) (o : ObjectOf k) :
    Signed id k.name (storedProperties (fields id now uid k o)) where
  cluster := by
    rw [stored_of_metadata (.text id.cluster) (by decide) (by simp [metadataFields]),
      omittedKeys_contains]
    simp [Key.clusterName, Key.instanceHash]
  hash := by
    rw [stored_of_metadata (.text id.hash) (by decide) (by simp [metadataFields]),
      omittedKeys_contains]
    simp

end ObjectOf

namespace Command

variable (id : Identity) (now : Instant)

/-- Each key of `clusterFields` is bound once, to the text that is listed for it. -/
theorem find?_clusterFields {key value : String}
    (h : (key, value) ∈ [(Key.uid, id.uid), (Key.name, id.cluster), (Key.clusterName, id.cluster),
      (Key.instanceHash, id.hash)]) :
    (storedProperties (clusterFields id now)).find? key = some (.text value) := by
  simp only [List.mem_cons, Prod.mk.injEq, List.not_mem_nil, or_false] at h
  unfold storedProperties clusterFields
  rw [(Dict.ordered_ofList _).find?_filterMap, @Dict.find?_ofList_eq_some _ _ key (.text value)]
  · rfl
  · rcases h with ⟨rfl, rfl⟩ | ⟨rfl, rfl⟩ | ⟨rfl, rfl⟩ | ⟨rfl, rfl⟩ <;> simp
  · rcases h with ⟨rfl, rfl⟩ | ⟨rfl, rfl⟩ | ⟨rfl, rfl⟩ | ⟨rfl, rfl⟩ <;>
      simp [Key.uid, Key.name, Key.clusterName, Key.instanceHash, Key.startedAt]

theorem storedUid_clusterFields :
    (storedProperties (clusterFields id now)).find? Key.uid = some (.text id.uid) :=
  find?_clusterFields id now (by simp)

theorem signed_clusterFields :
    Signed id Label.cluster (storedProperties (clusterFields id now)) where
  cluster := find?_clusterFields id now (by simp)
  hash := by
    rw [if_neg (by decide)]
    exact find?_clusterFields id now (by simp)

end Command

/-! ## Plans -/

namespace Plan

variable {α β : Type} {id : Identity}

/-- Every call of the plan `IsOwn` for the instance. -/
def IsOwn (id : Identity) (p : Plan α) : Prop :=
  ∀ c, p.Calls c → c.IsOwn id

/-- Unless one of its calls fails, the plan makes the call `sweepAll` before it is done. -/
def Clears (id : Identity) : Plan α → Prop
  | .done _ => False
  | .call c next => c = .sweepAll id ∨ ∀ n, (next (.ok n)).Clears id

theorem clears_bind {p : Plan α} {f : α → Plan β} (h : ∀ a, (f a).Clears id) :
    (p.bind f).Clears id := by
  induction p with
  | done a => exact h a
  | call c next ih => exact .inr fun n => ih (.ok n)

end Plan

/-- Every call of a plan that follows a notification `IsOwn`. -/
theorem Follows.isOwn {w : Writer} {now : Instant} {k : Kind} {n : Notification}
    {p : Plan (Except SyncError Unit)} (h : Follows w now k n p) : p.IsOwn w.id := by
  intro c hc
  cases h with
  | nothing => exact absurd hc Plan.not_calls_done
  | @written n raw o uid next _ _ _ hnext =>
      cases hc with
      | here =>
          exact .upsert .direct k.isIdentifier_name (ObjectOf.storedUid w.id now uid k o)
            (ObjectOf.signed_fields w.id now uid k o)
      | later answer hc => exact .keeps (hnext answer c hc)
  | deleted _ hnext =>
      cases hc with
      | here => exact .delete _ k.isIdentifier_name k.name_ne_cluster
      | later answer hc => exact .keeps (hnext answer c hc)

namespace Command

variable {id : Identity} {now : Instant}

theorem isOwn_register : (register id now).IsOwn id := by
  intro c hc
  cases hc with
  | here =>
      exact .upsert .transaction (by decide) (storedUid_clusterFields id now)
        (signed_clusterFields id now)
  | later answer hc => cases answer <;> exact absurd hc Plan.not_calls_done

/-- Performing the call of `Command.register` upserts the cluster node of the instance. -/
theorem perform_register {s : MemoryStore} (h : s.writable = true) :
    MemoryStore.perform (.upsert .transaction [Label.cluster] (clusterFields id now) Key.uid) s
      = (.ok (), (s.counting .transaction).withGraph (s.graph.upsert [Label.cluster] Key.uid
          (.text id.uid) (storedProperties (clusterFields id now)))) :=
  MemoryStore.perform_upsert (by decide) .transaction (storedUid_clusterFields id now) h

end Command

namespace Retention

variable {id : Identity}

theorem isSweep_sweepKinds {kinds : List String} {c : Call} (h : (sweepKinds id kinds).Calls c) :
    c.IsSweep id := by
  induction kinds with
  | nil => exact absurd h Plan.not_calls_done
  | cons kind rest ih =>
      rw [sweepKinds] at h
      split at h
      · exact ih h
      · cases h with
        | here => exact .label kind
        | later answer h =>
            rcases Plan.calls_bind h with h | ⟨n, h⟩
            · exact ih h
            · exact absurd h Plan.not_calls_done

theorem isSweep_sweep {kinds : List String} {c : Call} (h : (sweep id kinds).Calls c) :
    c.IsSweep id := by
  cases h with
  | here => exact .clusters
  | later answer h =>
      cases answer with
      | error e => exact absurd h Plan.not_calls_done
      | ok clusters =>
          rcases Plan.calls_bind h with h | ⟨resources, h⟩
          · exact isSweep_sweepKinds h
          · cases h with
            | here => exact .all
            | later answer h => cases answer <;> exact absurd h Plan.not_calls_done

theorem clears_sweep (id : Identity) (kinds : List String) : (sweep id kinds).Clears id :=
  .inr fun _ => Plan.clears_bind fun _ => .inl rfl

theorem isOwn_prune (id : Identity) (cluster : String) (days : Int) (now : Instant) :
    (prune cluster days now).IsOwn id := by
  intro c hc
  unfold prune at hc
  split at hc
  · exact absurd hc Plan.not_calls_done
  · cases hc with
    | here => exact .pruneEvents _ _
    | later answer hc => cases answer <;> exact absurd hc Plan.not_calls_done

end Retention

end ClusterGraph
