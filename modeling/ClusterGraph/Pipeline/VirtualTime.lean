import ClusterGraph.Pipeline.Run
import ClusterGraph.Time.Agenda

/-!
# ClusterGraph.Pipeline.VirtualTime

**Runs of the pipeline on virtual time, and what samples of its states show.**
-/

namespace ClusterGraph

/-- Bound on the actions that `settle` carries out at one time. A scenario comes nowhere near it. -/
def stepLimit : Nat := 1000000

/-- Milliseconds between two samples of the states. -/
def samplePeriod : Nat := 10

/-- Millisecond of the first sample, half a `samplePeriod` after the beginning, so that no sample is
taken while something happens. -/
def firstSample : Nat := 5

/-- Entry of an agenda: an `event` for the pipeline, or an `errand` of someone else who uses what is
shared. -/
inductive Occurrence (σ : Type) where
  | event (e : PipelineEvent)
  | errand (f : Shared σ → Shared σ)

/-- Change that two samples show: the state of `kind` at `time` is no longer the one before. -/
structure StateChange where
  time : Nat
  kind : String
  state : SubscriptionState
deriving DecidableEq

namespace Pipeline

variable {σ : Type}

/-- Let `o` happen, and then `settle` the pipeline. -/
def happen (env : Environment σ) (o : Occurrence σ) (p : Pipeline σ) : Pipeline σ :=
  settle env stepLimit <|
    match o with
    | .event e => p.receive e
    | .errand f => { p with shared := f p.shared }

/-- One `StateChange` for each kind whose state in `after` is not the one in `before`. -/
def changesBetween (time : Nat) (before after : Dict SubscriptionState) : List StateChange :=
  after.entries.filterMap fun entry =>
    if before.find? entry.1 = some entry.2 then none else some ⟨time, entry.1, entry.2⟩

/-- The changes that samples at the given times show, where `before` are the states of the sample
before the first, and `history` says when the pipeline came to which state. -/
def changesAt (p : Pipeline σ) (history : List (Nat × Pipeline σ)) :
    List Nat → Dict SubscriptionState → List StateChange
  | [], _ => []
  | time :: rest, before =>
      let after := (Agenda.at_ time p history).shared.registry.states
      changesBetween time before after ++ p.changesAt history rest after

/-- The changes that samples show between the beginning, when the pipeline is `p`, and `stop`. -/
def timeline (p : Pipeline σ) (history : List (Nat × Pipeline σ)) (stop : Nat) :
    List StateChange :=
  p.changesAt history (Agenda.ticks firstSample samplePeriod stop) p.shared.registry.states

end Pipeline

end ClusterGraph
