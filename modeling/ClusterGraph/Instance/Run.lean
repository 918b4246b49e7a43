import ClusterGraph.Instance.Commands
import ClusterGraph.Pipeline.VirtualTime

/-!
# ClusterGraph.Instance.Run

**The life of an instance, in small steps: it enters itself, starts the pipeline, sweeps
away what others left, and serves until it is told to stop.**

Design points:

* the sweep begins only when every kind is in sync, so that what is still there has been
  written again by then; the pipeline goes on while it runs;
* a failed sweep does not stop the instance, a failed start does;
* expired events are pruned and the store is checked at the ticks of a clock, while the
  instance serves.
-/

namespace ClusterGraph

/-- Result of the life of an instance: `stopped` after cancellation, or one of the two ways in which
it does not get to serve. -/
inductive RunResult where
  | stopped
  | notRegistered (e : StoreError)
  | notStarted (result : StartResult)
deriving DecidableEq

/-- Control state of an instance. Its phases follow one another in the order of the constructors,
unless `over` comes early. -/
inductive RunPhase where
  /-- Entering its cluster node (`Command.register`), where the plan `rest` is left. -/
  | registering (rest : Plan (Except StoreError Unit))
  /-- Waiting until the start of the pipeline is over. -/
  | starting
  /-- Deleting what others left (`Retention.sweep`), where the plan `rest` is left. -/
  | sweeping (rest : Plan (Except StoreError SweepReport))
  /-- Serving until it is cancelled. -/
  | serving
  /-- Final, with the `result` of the life of the instance. -/
  | over (result : RunResult)

/-- Parameters of an instance: its identity, and for how many `days` events are kept. -/
structure RunSettings where
  id : Identity
  days : Int

/-- State of an instance: its `pipeline`, its control state, and what is left of the plans for
`pruning` expired events and `checking` the store, while one of these is under way. -/
structure Run (σ : Type) where
  pipeline : Pipeline σ
  phase : RunPhase
  pruning : Option (Plan (Except StoreError (Option Nat)))
  checking : Option (Plan (Except StoreError Unit))

/-- Actions of an instance: one of its pipeline, or one step of its `main` task, of the task that
prunes or of the task that checks. -/
inductive RunAction where
  | pipeline (a : PipelineAction)
  | main
  | prune
  | check
deriving DecidableEq

/-- Event from outside: one for the pipeline, or a tick of one of the two timers. -/
inductive RunEvent where
  | pipeline (e : PipelineEvent)
  | pruneTick
  | checkTick

namespace Run

variable {σ : Type}

/-- The instance before its first step: it is about to enter its cluster node, and nothing is under
way beside that. -/
def begin (settings : RunSettings) (p : Pipeline σ) : Run σ :=
  ⟨p, .registering (Command.register settings.id p.shared.now), none, none⟩

/-- Whether the cluster node has been entered. Before that the pipeline takes no step
(`Run.act`). -/
def hasBegun (r : Run σ) : Bool :=
  match r.phase with
  | .registering _ | .over (.notRegistered _) => false
  | _ => true

/-- Move the instance to `phase` and change nothing else. -/
def goTo (r : Run σ) (phase : RunPhase) : Run σ :=
  { r with phase }

/-- Replace what is `shared`. -/
def withShared (r : Run σ) (s : Shared σ) : Run σ :=
  { r with pipeline := { r.pipeline with shared := s } }

/-- Make the call `c` on the shared store: its answer, and the instance after it. -/
def ask (env : Environment σ) (c : Call) (r : Run σ) : Except StoreError c.Answer × Run σ :=
  let (answer, store) := env.perform c r.pipeline.shared.store
  (answer, r.withShared { r.pipeline.shared with store })

/-- Whether all consumers are `stopped` and nothing is being pruned or checked. -/
def allStopped (r : Run σ) : Bool :=
  r.pruning.isNone && r.checking.isNone
    && r.pipeline.consumers.all fun c => match c.phase with | .stopped => true | _ => false

/-- One step of the main task: make the next call of the plan that it is at, or move on to the next
phase. While `starting` it waits for the result of the pipeline, and while `serving` until
everything has stopped. -/
def main (env : Environment σ) (settings : RunSettings) (r : Run σ) : Option (Run σ) :=
  match r.phase with
  | .registering (.call c next) =>
      let (answer, r) := r.ask env c
      some (r.goTo (.registering (next answer)))
  | .registering (.done (.ok _)) => some (r.goTo .starting)
  | .registering (.done (.error e)) => some (r.goTo (.over (.notRegistered e)))
  | .starting =>
      r.pipeline.result?.map fun
        | .synced _ =>
            r.goTo (.sweeping
              (Retention.sweep settings.id (r.pipeline.shared.registry.kinds.map Kind.name)))
        | .cancelled => r.goTo (.over .stopped)
        | .timedOut pending =>
            (r.withShared { r.pipeline.shared with cancelled := true }).goTo
              (.over (.notStarted (.timedOut pending)))
  | .sweeping (.call c next) =>
      let (answer, r) := r.ask env c
      some (r.goTo (.sweeping (next answer)))
  | .sweeping (.done result) =>
      let shared := r.pipeline.shared
      some ((r.withShared
        { shared with metrics := Retention.recordSweep result shared.metrics }).goTo .serving)
  | .serving =>
      if r.pipeline.shared.cancelled && r.allStopped then some (r.goTo (.over .stopped)) else none
  | .over _ => none

/-- One step of the task that prunes: make the next call of its plan, or count the events that were
deleted (`Retention.recordPrune`). -/
def prune (env : Environment σ) (r : Run σ) : Option (Run σ) :=
  match r.pruning with
  | some (.call c next) =>
      let (answer, r) := r.ask env c
      some { r with pruning := some (next answer) }
  | some (.done result) =>
      let shared := r.pipeline.shared
      let metrics := Retention.recordPrune result shared.metrics
      some { r.withShared { shared with metrics } with pruning := none }
  | none => none

/-- One step of the task that checks: make the next call of its plan, or be done with it. -/
def check (env : Environment σ) (r : Run σ) : Option (Run σ) :=
  match r.checking with
  | some (.call c next) =>
      let (answer, r) := r.ask env c
      some { r with checking := some (next answer) }
  | some (.done _) => some { r with checking := none }
  | none => none

/-- Carry out the action `a`. The result is `none` if it is not possible in this state; those of the
pipeline are possible once the run `hasBegun`. -/
def act (env : Environment σ) (settings : RunSettings) (a : RunAction) (r : Run σ) :
    Option (Run σ) :=
  match a with
  | .pipeline a =>
      if r.hasBegun then
        (r.pipeline.act env a).map fun o => { r with pipeline := o.pipeline }
      else none
  | .main => r.main env settings
  | .prune => r.prune env
  | .check => r.check env

/-- Whether a tick of a timer has an effect: the instance is `serving` and not cancelled. -/
def heedsTicks (r : Run σ) : Bool :=
  match r.phase with
  | .serving => !r.pipeline.shared.cancelled
  | _ => false

/-- Take in an event. A tick that `heedsTicks` lets through begins a plan, unless the one before is
still under way. -/
def receive (settings : RunSettings) (r : Run σ) : RunEvent → Run σ
  | .pipeline e => { r with pipeline := r.pipeline.receive e }
  | .pruneTick =>
      if r.heedsTicks && r.pruning.isNone then
        { r with
          pruning := some
            (Retention.prune settings.id.cluster settings.days r.pipeline.shared.now) }
      else r
  | .checkTick =>
      if r.heedsTicks && r.checking.isNone then { r with checking := some (Plan.ask .health) }
      else r

/-- Reachability: `Steps env settings p q` says that actions of the instance and events from
outside, in any order and number, lead from `p` to `q`. -/
inductive Steps (env : Environment σ) (settings : RunSettings) : Run σ → Run σ → Prop where
  | refl (r : Run σ) : Steps env settings r r
  | act {p q r : Run σ} (h : Steps env settings p q) (a : RunAction)
      (ha : q.act env settings a = some r) : Steps env settings p r
  | receive {p q : Run σ} (h : Steps env settings p q) (e : RunEvent) :
      Steps env settings p (q.receive settings e)

/-- Runs compose. -/
theorem Steps.trans {env : Environment σ} {settings : RunSettings} {p q r : Run σ}
    (first : Steps env settings p q) (second : Steps env settings q r) :
    Steps env settings p r := by
  induction second with
  | refl => exact first
  | act _ a ha ih => exact ih.act a ha
  | receive _ e ih => exact ih.receive e

/-! ### One run of many -/

/-- The actions of the instance, in the order in which `settle` tries them. -/
def actions (r : Run σ) : List RunAction :=
  [.prune, .check] ++ r.pipeline.actions.map .pipeline ++ [.main]

/-- Carry out the first of `actions` that is possible, until there is none or `n` are done. -/
def settle (env : Environment σ) (settings : RunSettings) : Nat → Run σ → Run σ
  | 0, r => r
  | n + 1, r =>
      match r.actions.findSome? fun a => r.act env settings a with
      | some r => settle env settings n r
      | none => r

/-- Every state that `settle` comes to is reached by a run. -/
theorem steps_settle (env : Environment σ) (settings : RunSettings) (n : Nat) (r : Run σ) :
    Steps env settings r (settle env settings n r) := by
  induction n generalizing r with
  | zero => exact .refl r
  | succ n ih =>
      rw [settle]
      split
      · rename_i q next
        obtain ⟨a, -, ha⟩ := List.exists_of_findSome?_eq_some next
        exact ((Steps.refl r).act a ha).trans (ih q)
      · exact .refl r

/-- Take in the event `e`, and then `settle` the instance. -/
def happen (env : Environment σ) (settings : RunSettings) (e : RunEvent) (r : Run σ) : Run σ :=
  settle env settings stepLimit (r.receive settings e)

/-- Whether the instance is `serving` or its life is `over`. -/
def isSettled (r : Run σ) : Bool :=
  match r.phase with
  | .serving | .over _ => true
  | _ => false

/-- The result of the life of the instance, once it is `over`. -/
def result? (r : Run σ) : Option RunResult :=
  match r.phase with
  | .over result => some result
  | _ => none

end Run

end ClusterGraph
