import ClusterGraph.Pipeline.Consumer
import ClusterGraph.Time.Span

/-!
# ClusterGraph.Pipeline.Start

**Starting the pipeline, in small steps: which kinds can be watched, subscribing to them,
and waiting until all are in sync.**

Design points:

* a kind is skipped if its probe says that it is out of reach; a probe that failed in
  another way does not keep anyone from subscribing;
* who waits looks at the states first and is woken by changes after that, so a change
  between the look and the sleep is not missed;
* when the time is up, the kinds that are pending then are reported, whatever the last look
  showed;
* a look at the states of all kinds is one step, and so is the report when the time is up
  (`StartAction`).
-/

namespace ClusterGraph

/-- Result of starting the pipeline. -/
inductive StartResult where
  /-- No kind is pending; `tasks` kinds are watched. -/
  | synced (tasks : Nat)
  | cancelled
  /-- The time was up first. The kinds in `pending` are those that were pending when it was. -/
  | timedOut (pending : List String)
deriving DecidableEq

namespace StartResult

/-- The message of a failed start (`timedOut` or `cancelled`), where `timeout` is the time that it
had. -/
def message? (timeout : Span) : StartResult → Option String
  | synced _ => none
  | cancelled => some "pipeline cancelled"
  | timedOut pending =>
      some ("initial sync not complete after " ++ timeout.text ++ ", still waiting on "
        ++ Text.quotedList pending)

end StartResult

/-- Control state of the start. Its phases follow one another in the order of the constructors, but
`looking` and `asleep` take turns. -/
inductive StartPhase where
  /-- Recording the results of the probes in `rest` (`Pipeline.probeNext`). -/
  | probing (rest : List (Kind × Except ProbeError Unit))
  /-- Subscribing to the kinds in `rest` that are `available` (`Pipeline.subscribeNext`). -/
  | subscribing (rest : List Kind)
  /-- About to look whether a kind is pending (`Pipeline.look`), when `seen` changes have been
  noticed. -/
  | looking (seen : Nat)
  /-- Asleep until there are more changes than `seen` (`Pipeline.wake`), the time is up
  (`Pipeline.expire`), or the instance is cancelled (`Pipeline.stop`). -/
  | asleep (seen : Nat)
  /-- Final, with the `result` of the start. -/
  | over (result : StartResult)

/-- Actions of the start, carried out by `Pipeline.actStart`. `look` and `expire` read the states of
all kinds in one step. The states of an instance are kept in several parts that are read one after
the other, and a state may be set between two of these reads. Nothing is lost by taking them as one
step, because a kind that is no longer pending never is again, once all kinds are subscribed to: a
reading that finds no kind pending agrees with a `look` at its end, one that finds some agrees with
a `look` at its beginning, and the kinds that it finds lie between those that are pending at the two
(`Pipeline.Steps.pending_between`). -/
inductive StartAction where
  | probe
  | subscribe
  | look
  | wake
  | expire
  | stop
deriving DecidableEq

/-- The state that is recorded for the result of a probe: `skipped` if the kind is out of reach
(`ProbeError.isUnavailable`), and `available` after a success or any other failure. -/
def probedState : Except ProbeError Unit → SubscriptionState
  | .ok _ => .available
  | .error e => if e.isUnavailable then .skipped else .available

/-- State of a pipeline: what is `shared`, the control state of the `start`, one consumer for each
kind that was subscribed to, in this order, and whether the time for the start is up (`expired`). -/
structure Pipeline (σ : Type) where
  shared : Shared σ
  start : StartPhase
  consumers : List Consumer
  expired : Bool

/-- Result of an action: the pipeline after it and what was `seen`. -/
structure PipelineOutcome (σ : Type) where
  pipeline : Pipeline σ
  seen : List Observation

namespace Pipeline

variable {σ : Type}

/-- The pipeline before its first step. Each kind of `Registry.kinds` is to be probed, with the
result `probe k`, and will have one consumer at most. The handler of a consumer is the one that the
registry holds for its kind, `Registry.handler?`: of several handlers that were given for a kind
this is always the first (`Pipeline.Steps.handler?_eq`). -/
def begin (s : Shared σ) (probe : Kind → Except ProbeError Unit) : Pipeline σ :=
  ⟨s, .probing (s.registry.kinds.map fun k => (k, probe k)), [], false⟩

/-- Set the state of `k` and notify those who wait, as one step (`Registry.setState`). -/
def setState (p : Pipeline σ) (k : Kind) (state : SubscriptionState) : Pipeline σ :=
  let (registry, metrics) := Registry.setState k.name state p.shared.registry p.shared.metrics
  { p with shared := { p.shared with registry, metrics } }

/-- Record the `probedState` of the next kind; after the last one go on to subscribe to the kinds of
the registry. -/
def probeNext (p : Pipeline σ) : Option (PipelineOutcome σ) :=
  match p.start with
  | .probing ((k, result) :: rest) =>
      some ⟨{ p.setState k (probedState result) with start := .probing rest }, []⟩
  | .probing [] => some ⟨{ p with start := .subscribing p.shared.registry.kinds }, []⟩
  | _ => none

/-- Subscribe to the next kind if its state is `available`: set it to `syncing` and add its consumer
(`Consumer.start`). After the last kind go on to `looking`. -/
def subscribeNext (env : Environment σ) (p : Pipeline σ) : Option (PipelineOutcome σ) :=
  match p.start with
  | .subscribing (k :: rest) =>
      if p.shared.registry.state? k.name = some .available then
        let p := p.setState k .syncing
        some
          ⟨{ p with
              start := .subscribing rest
              consumers := p.consumers ++ [Consumer.start k env.lanes] },
            [.watched k]⟩
      else some ⟨{ p with start := .subscribing rest }, []⟩
  | .subscribing [] => some ⟨{ p with start := .looking p.shared.registry.changes }, []⟩
  | _ => none

/-- End the start with `synced` if no kind is pending, otherwise fall `asleep`. All states are read
in this one step; see `StartAction`. -/
def look (p : Pipeline σ) : Option (PipelineOutcome σ) :=
  match p.start with
  | .looking seen =>
      let next :=
        if p.shared.registry.pending.isEmpty then .over (.synced p.consumers.length)
        else .asleep seen
      some ⟨{ p with start := next }, []⟩
  | _ => none

/-- Go from `asleep` to `looking`, if a state has changed since (`Registry.changes`). -/
def wake (p : Pipeline σ) : Option (PipelineOutcome σ) :=
  match p.start with
  | .asleep seen =>
      if seen < p.shared.registry.changes then
        some ⟨{ p with start := .looking p.shared.registry.changes }, []⟩
      else none
  | _ => none

/-- End the start with `timedOut`, if the time is up while it is `asleep`. The kinds it names are
read again, in this step, whatever the last `look` found; so there may be none. -/
def expire (p : Pipeline σ) : Option (PipelineOutcome σ) :=
  match p.start, p.expired with
  | .asleep _, true => some ⟨{ p with start := .over (.timedOut p.shared.registry.pending) }, []⟩
  | _, _ => none

/-- End the start with `cancelled`, if the instance was cancelled while it was `asleep`. -/
def stop (p : Pipeline σ) : Option (PipelineOutcome σ) :=
  match p.start, p.shared.cancelled with
  | .asleep _, true => some ⟨{ p with start := .over .cancelled }, []⟩
  | _, _ => none

/-- Carry out the action `a` of the start. The result is `none` if it is not possible in this
state. -/
def actStart (env : Environment σ) (a : StartAction) (p : Pipeline σ) :
    Option (PipelineOutcome σ) :=
  match a with
  | .probe => p.probeNext
  | .subscribe => p.subscribeNext env
  | .look => p.look
  | .wake => p.wake
  | .expire => p.expire
  | .stop => p.stop

/-- The result of the start, once it is `over`. -/
def result? (p : Pipeline σ) : Option StartResult :=
  match p.start with
  | .over result => some result
  | _ => none

end Pipeline

end ClusterGraph
