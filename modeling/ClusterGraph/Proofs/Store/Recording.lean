import ClusterGraph.Proofs.Store.NodeChange
import ClusterGraph.Proofs.Store.Unreliable
import ClusterGraph.Store.Trace

/-!
# ClusterGraph.Proofs.Store.Recording

**The calls of a run, in order and with their answers, tell all that became of the graph.**

Which calls a plan makes depends on what is answered, so the record belongs to a run and not to the
plan (`Plan.trace`). Of a record only the calls that succeeded count: each had its effect on the
graph that the ones before had left, and there was no other change (`Plan.graph_run`).
-/

namespace ClusterGraph

namespace CallRecord

/-- Whether the answer was a success. -/
def succeeded (r : CallRecord) : Bool :=
  r.answer.isOk

/-- What the recorded call did to the graph: its `effect` if it succeeded, and nothing if it
failed. -/
def replay (r : CallRecord) (g : Graph) : Graph :=
  if r.succeeded then r.call.effect g else g

end CallRecord

namespace Plan

variable {α β σ : Type}

/-- The records of all calls that running a plan makes, in their order. -/
def trace (perform : Performer σ) : Plan α → σ → List CallRecord
  | done _, _ => []
  | call c next, s =>
      ⟨c, (perform c s).1⟩ :: (next (perform c s).1).trace perform (perform c s).2

@[simp] theorem trace_done (perform : Performer σ) (a : α) (s : σ) :
    (done a).trace perform s = [] :=
  rfl

@[simp] theorem trace_call (perform : Performer σ) (c : Call)
    (next : Except StoreError c.Answer → Plan α) (s : σ) :
    (call c next).trace perform s
      = ⟨c, (perform c s).1⟩ :: (next (perform c s).1).trace perform (perform c s).2 :=
  rfl

theorem trace_bind (perform : Performer σ) (p : Plan α) (f : α → Plan β) (s : σ) :
    (p.bind f).trace perform s
      = p.trace perform s ++ (f (p.run perform s).1).trace perform (p.run perform s).2 := by
  induction p generalizing s with
  | done a => rfl
  | call c next ih => exact congrArg (_ :: ·) (ih _ _)

/-- The calls of a trace are calls of the plan. -/
theorem calls_of_mem_trace {perform : Performer σ} {p : Plan α} {s : σ} {r : CallRecord}
    (h : r ∈ p.trace perform s) : p.Calls r.call := by
  induction p generalizing s with
  | done a => cases h
  | call c next ih =>
      rcases List.mem_cons.mp h with rfl | h
      · exact .here
      · exact .later _ (ih _ h)

/-- The graph after a run is the one before with the trace replayed. -/
theorem graph_run (p : Plan α) (s : UnreliableStore) :
    (p.run UnreliableStore.perform s).2.graph
      = (p.trace UnreliableStore.perform s).foldl (fun g r => r.replay g) s.graph := by
  induction p generalizing s with
  | done a => rfl
  | call c next ih =>
      rw [run_call, ih, trace_call, List.foldl_cons]
      congr 1
      unfold CallRecord.replay CallRecord.succeeded
      rcases UnreliableStore.perform_cases c s with ⟨⟨e, he⟩, hkept⟩ | ⟨⟨a, ha⟩, heffect⟩
      · rw [hkept, he]
        rfl
      · rw [heffect, ha]
        rfl

end Plan

/-! ## Stores that do not fail -/

namespace UnreliableStore

/-- The same store without failures of its own. -/
def relied (s : UnreliableStore) : UnreliableStore :=
  { s with failure? := fun _ _ => none }

theorem perform_relied (c : Call) (s : UnreliableStore) :
    perform c s.relied = ((s.store.perform c).1,
      { s.relied with store := (s.store.perform c).2, made := s.made + 1 }) :=
  perform_of_success rfl

/-- When a call succeeds, its answer and its effect are those of the store behind. -/
theorem perform_of_ok {c : Call} {s : UnreliableStore} {a : c.Answer}
    (h : (perform c s).1 = .ok a) :
    perform c s
      = ((s.store.perform c).1, { s with store := (s.store.perform c).2, made := s.made + 1 }) := by
  cases hfailure : s.failure? s.made c with
  | some e =>
      unfold perform at h
      rw [hfailure] at h
      cases h
  | none => exact perform_of_success hfailure

/-- A call that succeeds would have had the same effect without failures. -/
theorem perform_relied_of_ok {c : Call} {s : UnreliableStore} {a : c.Answer}
    (h : (perform c s).1 = .ok a) :
    (perform c s.relied).1 = .ok a ∧ (perform c s.relied).2.graph = (perform c s).2.graph := by
  have hanswer := perform_of_ok h
  rw [perform_relied, hanswer]
  rw [hanswer] at h
  exact ⟨h, rfl⟩

variable {α : Type}

/-- Without failures, a plan has the same result, store and trace as when it is run in memory. -/
theorem run_relied (p : Plan α) (s : UnreliableStore) :
    (p.run perform s.relied).1 = (p.run MemoryStore.perform s.store).1
      ∧ (p.run perform s.relied).2.store = (p.run MemoryStore.perform s.store).2
      ∧ p.trace perform s.relied = p.trace MemoryStore.perform s.store := by
  induction p generalizing s with
  | done a => exact ⟨rfl, rfl, rfl⟩
  | call c next ih =>
      obtain ⟨hresult, hstore, htrace⟩ := ih (s.store.perform c).1
        { s with store := (s.store.perform c).2, made := s.made + 1 }
      rw [Plan.run_call, Plan.run_call, Plan.trace_call, Plan.trace_call, perform_relied]
      exact ⟨hresult, hstore, congrArg (_ :: ·) htrace⟩

end UnreliableStore

end ClusterGraph
