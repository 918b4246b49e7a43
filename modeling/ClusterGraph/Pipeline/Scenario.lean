import ClusterGraph.Pipeline.Housekeeping
import ClusterGraph.Pipeline.VirtualTime

/-!
# ClusterGraph.Pipeline.Scenario

**A pipeline that is started, left running for a while, and cancelled, on virtual time.**

Until the start is over, only the watches, a cancellation and the deadline matter; after it,
the store may be checked from time to time as well. In the end the store may be checked once
more, and everything is cancelled.
-/

namespace ClusterGraph

/-- Script for a pipeline. All times are in milliseconds from the beginning. -/
structure Scenario where
  /-- The result of probing each kind. -/
  probe : Kind → Except ProbeError Unit
  /-- The items that the watches deliver, and their ends. -/
  events : List (Nat × PipelineEvent)
  deadline : Nat
  cancelAt : Option Nat
  /-- The pipeline is not stopped before this time, nor before its start has ended. -/
  runUntil : Nat
  /-- Time between two checks of the store, which begin when the start has ended; none if `none`. -/
  checkPeriod : Option Nat
  checkAtEnd : Bool

/-- Record of a scenario: the pipeline when it has `begun`, when its start ended, and after
everything that happened in between and later, with the times (`history`). -/
structure Course (σ : Type) where
  begun : Pipeline σ
  startedAt : Nat
  atStart : Pipeline σ
  stoppedAt : Nat
  history : List (Nat × Pipeline σ)
  /-- Result of the check at the end, if the scenario asks for one. -/
  isHealthy : Option Bool
  final : Pipeline σ

namespace Scenario

variable {σ : Type}

/-- An event at time 0 for each kind that is not `mentioned`: its watch delivers the marker
`synced`. -/
def syncedAtOnce (kinds : List Kind) (mentioned : List String) : List (Nat × PipelineEvent) :=
  (kinds.filter fun k => !mentioned.contains k.name).map fun k =>
    (0, .deliver k (.notify .synced))

/-- The `events`, the deadline of the start and the cancellation, in the order of their times. -/
def agenda (s : Scenario) : Agenda (Occurrence σ) :=
  Agenda.ofList <|
    (s.events ++ [(s.deadline, PipelineEvent.deadline)]
      ++ s.cancelAt.toList.map fun t => (t, PipelineEvent.cancel)).map fun (t, e) => (t, .event e)

/-- A check of the store (`Shared.check`) at each tick of the `checkPeriod` after `start`, until
`stop`. -/
def checks (env : Environment σ) (s : Scenario) (start stop : Nat) :
    List (Nat × Occurrence σ) :=
  match s.checkPeriod with
  | none => []
  | some period =>
      let period := max period 1
      (Agenda.ticks (start + period) period stop).map fun t =>
        (t, .errand fun shared => (shared.check env.perform).2)

/-- Check the store if `checkAtEnd` asks for it, and say whether it answered. -/
def lastCheck (env : Environment σ) (s : Scenario) (shared : Shared σ) :
    Option Bool × Shared σ :=
  if s.checkAtEnd then
    let (ok, shared) := shared.check env.perform
    (some ok, shared)
  else (none, shared)

/-- Play a scenario from the beginning: first what happens until the start has ended, then what is
left of the `agenda` together with the `checks`, until the pipeline is stopped. -/
def play (s : Scenario) (env : Environment σ) (shared : Shared σ) : Course σ :=
  let begun := Pipeline.settle env stepLimit (Pipeline.begin shared s.probe)
  let (early, left) :=
    Agenda.playUntil (Pipeline.happen env) (·.result?.isSome) s.agenda (0, begun)
  let (startedAt, atStart) := Agenda.last (0, begun) early
  let stoppedAt := max startedAt s.runUntil
  let late := Agenda.play (Pipeline.happen env)
    (Agenda.ofList (Agenda.before stoppedAt left ++ s.checks env startedAt stoppedAt)) atStart
  let history := early ++ late
  let (_, last) := Agenda.last (startedAt, atStart) history
  let (isHealthy, shared) := s.lastCheck env last.shared
  { begun, startedAt, atStart, stoppedAt, history, isHealthy
    final := Pipeline.happen env (.event .cancel) { last with shared } }

end Scenario

namespace Course

variable {σ : Type}

/-- The changes of the states that samples show during the course (`Pipeline.timeline`). -/
def timeline (c : Course σ) : List StateChange :=
  c.begun.timeline c.history c.stoppedAt

/-- The kinds of the consumers that the pipeline has once it has `begun`. -/
def watched (c : Course σ) : List Kind :=
  c.begun.consumers.map fun consumer => consumer.kind

end Course

end ClusterGraph
