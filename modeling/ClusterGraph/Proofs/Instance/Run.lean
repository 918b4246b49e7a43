import ClusterGraph.Instance.Run
import ClusterGraph.Proofs.Instance.Calls
import ClusterGraph.Proofs.Pipeline.Starting
import ClusterGraph.Proofs.Pipeline.Working

/-!
# ClusterGraph.Proofs.Instance.Run

**What one step of an instance can do, and to which parts.**

An instance is a pipeline and three plans of its own: one for what it is at, one for pruning and
one for checking. A step is one of the pipeline, or of one of the plans, or takes the instance
from one phase to the next (`Run.Step`). Whatever the step is, it changes the store by the call
that it makes and by nothing else (`Run.store_act`), and only steps of the pipeline change the
start and the consumers (`Run.Step.pipeline_cases`).
-/

namespace ClusterGraph
namespace Run

variable {σ : Type} {env : Environment σ} {settings : RunSettings} {r q : Run σ} {a : RunAction}

/-- The store that the instance shares with its pipeline. -/
def store (r : Run σ) : σ :=
  r.pipeline.shared.store

/-- The call that an action makes: one of a worker, or the next call of the plan that the task is
at. -/
def call? (r : Run σ) : RunAction → Option Call
  | .pipeline a => r.pipeline.call? a
  | .main =>
      match r.phase with
      | .registering rest => rest.call?
      | .sweeping rest => rest.call?
      | _ => none
  | .prune => r.pruning.bind Plan.call?
  | .check => r.checking.bind Plan.call?

/-- Inversion of `Run.act`: the ways in which an action can change the instance, with everything
they presuppose. -/
inductive Step (env : Environment σ) (settings : RunSettings) (r : Run σ) :
    RunAction → Run σ → Prop where
  | pipeline {a : PipelineAction} {o : PipelineOutcome σ} (ha : r.pipeline.act env a = some o) :
      Step env settings r (.pipeline a) { r with pipeline := o.pipeline }
  | register {c : Call} {next : Except StoreError c.Answer → Plan (Except StoreError Unit)}
      (hphase : r.phase = .registering (.call c next)) :
      Step env settings r .main ((r.ask env c).2.goTo (.registering (next (r.ask env c).1)))
  | registered (hphase : r.phase = .registering (.done (.ok ()))) :
      Step env settings r .main (r.goTo .starting)
  /-- The start of the pipeline ended with `synced`, so the sweep begins. -/
  | sweep {tasks : Nat} (hphase : r.phase = .starting)
      (hstart : r.pipeline.start = .over (.synced tasks)) :
      Step env settings r .main (r.goTo (.sweeping
        (Retention.sweep settings.id (r.pipeline.shared.registry.kinds.map Kind.name))))
  | sweepCall {c : Call} {next : Except StoreError c.Answer → Plan (Except StoreError SweepReport)}
      (hphase : r.phase = .sweeping (.call c next)) :
      Step env settings r .main ((r.ask env c).2.goTo (.sweeping (next (r.ask env c).1)))
  | swept {result : Except StoreError SweepReport} (metrics : Metrics)
      (hphase : r.phase = .sweeping (.done result)) :
      Step env settings r .main
        ((r.withShared { r.pipeline.shared with metrics }).goTo .serving)
  /-- The life of the instance ends with `result`. It has no call left to make, and it is not
  `sweeping`. -/
  | stop (cancelled : Bool) (result : RunResult) (hidle : r.call? .main = none)
      (hphase : ∀ rest, r.phase ≠ .sweeping rest) :
      Step env settings r .main
        ((r.withShared { r.pipeline.shared with cancelled }).goTo (.over result))
  | pruneCall {c : Call} {next : Except StoreError c.Answer → Plan (Except StoreError (Option Nat))}
      (hpruning : r.pruning = some (.call c next)) :
      Step env settings r .prune
        { (r.ask env c).2 with pruning := some (next (r.ask env c).1) }
  | pruned {result : Except StoreError (Option Nat)} (metrics : Metrics)
      (hpruning : r.pruning = some (.done result)) :
      Step env settings r .prune
        { r.withShared { r.pipeline.shared with metrics } with pruning := none }
  | checkCall {c : Call} {next : Except StoreError c.Answer → Plan (Except StoreError Unit)}
      (hchecking : r.checking = some (.call c next)) :
      Step env settings r .check
        { (r.ask env c).2 with checking := some (next (r.ask env c).1) }
  | checked {result : Except StoreError Unit} (hchecking : r.checking = some (.done result)) :
      Step env settings r .check { r with checking := none }

theorem step_of_main (h : r.main env settings = some q) : Step env settings r .main q := by
  unfold main at h
  split at h
  · rename_i hphase
    cases h
    exact .register hphase
  · rename_i hphase
    cases h
    exact .registered hphase
  · rename_i e hphase
    cases h
    exact .stop r.pipeline.shared.cancelled _ (by simp [call?, hphase, Plan.call?])
      (by simp [hphase])
  · rename_i hphase
    have hidle : r.call? .main = none := by
      simp [call?, hphase]
    obtain ⟨result, hresult, rfl⟩ := Option.map_eq_some_iff.mp h
    have hstart : r.pipeline.start = .over result := by
      unfold Pipeline.result? at hresult
      split at hresult
      · rename_i found hfound
        cases hresult
        exact hfound
      · cases hresult
    cases result with
    | synced tasks => exact .sweep hphase hstart
    | cancelled => exact .stop r.pipeline.shared.cancelled _ hidle (by simp [hphase])
    | timedOut pending => exact .stop true _ hidle (by simp [hphase])
  · rename_i hphase
    cases h
    exact .sweepCall hphase
  · rename_i hphase
    cases h
    exact .swept _ hphase
  · rename_i hphase
    obtain ⟨-, h⟩ := Option.ite_none_right_eq_some.mp h
    cases h
    exact .stop r.pipeline.shared.cancelled _ (by simp [call?, hphase]) (by simp [hphase])
  · cases h

theorem step_of_act (h : r.act env settings a = some q) : Step env settings r a q := by
  cases a with
  | pipeline a =>
      obtain ⟨-, h⟩ := Option.ite_none_right_eq_some.mp h
      obtain ⟨o, ho, rfl⟩ := Option.map_eq_some_iff.mp h
      exact .pipeline ho
  | main => exact step_of_main h
  | prune =>
      rw [act] at h
      unfold prune at h
      split at h
      · rename_i hpruning
        cases h
        exact .pruneCall hpruning
      · rename_i hpruning
        cases h
        exact .pruned _ hpruning
      · cases h
  | check =>
      rw [act] at h
      unfold check at h
      split at h
      · rename_i hchecking
        cases h
        exact .checkCall hchecking
      · rename_i hchecking
        cases h
        exact .checked hchecking
      · cases h

/-- Frame lemma of `Run.act`: the store changes by the call of the action (`call?`) and by nothing
else. -/
theorem store_act (h : r.act env settings a = some q) :
    q.store = env.after r.store (r.call? a) := by
  cases step_of_act h with
  | pipeline ha => exact Pipeline.store_act ha
  | register hphase | sweepCall hphase | registered hphase | sweep hphase | swept _ hphase =>
      simp only [call?, hphase, Plan.call?]
      rfl
  | stop _ _ hidle =>
      rw [hidle]
      rfl
  | pruneCall hplan | checkCall hplan | pruned _ hplan | checked hplan =>
      simp only [call?, hplan, Option.bind_some, Plan.call?]
      rfl

/-- The start, the consumers and the registry change only by actions of the pipeline. -/
theorem Step.pipeline_cases (h : Step env settings r a q) :
    (∃ b o, r.pipeline.act env b = some o ∧ q.pipeline = o.pipeline)
      ∨ (q.pipeline.consumers = r.pipeline.consumers ∧ q.pipeline.start = r.pipeline.start
        ∧ q.pipeline.shared.registry = r.pipeline.shared.registry) := by
  cases h with
  | pipeline ha => exact .inl ⟨_, _, ha, rfl⟩
  | _ => exact .inr ⟨rfl, rfl, rfl⟩

/-- Case analysis of `receive`: the event is one for the pipeline, or begins a plan of pruning or
checking, or has no effect. -/
theorem receive_cases (settings : RunSettings) (r : Run σ) (e : RunEvent) :
    (∃ b, r.receive settings e = { r with pipeline := r.pipeline.receive b })
      ∨ r.receive settings e = r
      ∨ r.receive settings e = { r with
          pruning := some
            (Retention.prune settings.id.cluster settings.days r.pipeline.shared.now) }
      ∨ r.receive settings e = { r with checking := some (Plan.ask .health) } := by
  cases e with
  | pipeline b => exact .inl ⟨b, rfl⟩
  | pruneTick =>
      rw [receive]
      split
      · exact .inr (.inr (.inl rfl))
      · exact .inr (.inl rfl)
  | checkTick =>
      rw [receive]
      split
      · exact .inr (.inr (.inr rfl))
      · exact .inr (.inl rfl)

theorem store_receive (settings : RunSettings) (r : Run σ) (e : RunEvent) :
    (r.receive settings e).store = r.store := by
  rcases receive_cases settings r e with ⟨b, heq⟩ | heq | heq | heq <;> rw [heq]
  · exact (Pipeline.receive_eq r.pipeline b).2.2.2
  · rfl
  · rfl

end Run
end ClusterGraph
