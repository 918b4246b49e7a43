import ClusterGraph.Instance.Run
import ClusterGraph.Pipeline.Scenario

/-!
# ClusterGraph.Instance.Scenario

**The life of an instance on virtual time, with the ticks at which it prunes and checks.**

The ticks begin when the instance begins to serve: it prunes at once and then periodically,
and checks after the first period.
-/

namespace ClusterGraph

/-- Script for an instance. All times are in milliseconds from the beginning. -/
structure RunScenario where
  /-- The result of probing each kind. -/
  probe : Kind → Except ProbeError Unit
  /-- The items that the watches deliver, and their ends. -/
  events : List (Nat × PipelineEvent)
  deadline : Nat
  cancelAt : Nat
  prunePeriod : Nat
  checkPeriod : Nat

/-- Record of a scenario: when the life of the instance ended, and its state then. -/
structure RunCourse (σ : Type) where
  endedAt : Nat
  final : Run σ

namespace RunScenario

variable {σ : Type}

/-- The `events`, the deadline of the start and the cancellation, in the order of their times. -/
def agenda (s : RunScenario) : Agenda RunEvent :=
  Agenda.ofList <|
    (s.events ++ [(s.deadline, PipelineEvent.deadline), (s.cancelAt, .cancel)]).map fun (t, e) =>
      (t, .pipeline e)

/-- The ticks of both timers from `from_` on, until the cancellation. The timer that prunes ticks at
once, the one that checks after its first period. -/
def ticks (s : RunScenario) (from_ : Nat) : List (Nat × RunEvent) :=
  let prunePeriod := max s.prunePeriod 1
  let checkPeriod := max s.checkPeriod 1
  (Agenda.ticks from_ prunePeriod s.cancelAt).map (fun t => (t, .pruneTick))
    ++ (Agenda.ticks (from_ + checkPeriod) checkPeriod s.cancelAt).map fun t => (t, .checkTick)

/-- Play a scenario from the beginning: first what happens until the instance `isSettled`, then, if
it serves, what is left of the `agenda` together with the `ticks`. -/
def play (s : RunScenario) (env : Environment σ) (settings : RunSettings) (shared : Shared σ) :
    RunCourse σ :=
  let begun := Run.settle env settings stepLimit
    (Run.begin settings (Pipeline.begin shared s.probe))
  let (early, left) :=
    Agenda.playUntil (Run.happen env settings) (·.isSettled) s.agenda (0, begun)
  let (servingFrom, atServing) := Agenda.last (0, begun) early
  let late :=
    if atServing.result?.isSome then []
    else
      Agenda.play (Run.happen env settings) (Agenda.ofList (left ++ s.ticks servingFrom)) atServing
  let history := early ++ late
  let (endedAt, final) :=
    (history.find? fun item => item.2.result?.isSome).getD (Agenda.last (0, begun) history)
  ⟨endedAt, final⟩

end RunScenario

end ClusterGraph
