import ClusterGraph.Pipeline.Lane
import ClusterGraph.Subscription.Registry

/-!
# ClusterGraph.Pipeline.Consumer

**The consumer of a kind, in small steps: it reads the watch of the kind and hands what it
reads to its lanes.**

A step is an action that is possible or not (`Consumer.act`); which of the possible actions
comes next is left open, so a run is any sequence of possible actions.

Design points:

* a marker that the kind is in sync is recorded only after every lane has answered a flush
  that was sent behind all earlier notifications;
* that all lanes have answered, that the state is stored and that those who wait for it are
  told are three steps, and between them anything may happen, cancellation included;
* what is done for a notification is settled by the clock when a worker takes it up;
* after cancellation nothing more is read or sent, and no answers are waited for. A worker
  may still make calls of the plan it is at, or drop it;
* when the watch ends, what is queued is still handled before the workers stop.
-/

namespace ClusterGraph

/-! ### Surroundings -/

/-- State that the start, the consumers and their workers share: the `store`, the `registry` of
states, the `metrics`, whether the instance is `cancelled`, and the clock (`now`). -/
structure Shared (σ : Type) where
  store : σ
  registry : Registry
  metrics : Metrics
  cancelled : Bool
  now : Instant

/-- Parameters of a run: `perform` answers the calls of a plan, `work now k n` is the plan that a
worker carries out for the notification `n` of `k` when it takes it up at `now`, a lane holds at
most `buffer` messages, and each consumer has `lanes` of them. The handlers of a run return: a
handling step that panics (`Sync.create? = none`) is no `work` of an environment. -/
structure Environment (σ : Type) where
  perform : Plan.Performer σ
  work : Instant → Kind → Notification → Plan (Except SyncError Unit)
  buffer : Nat
  lanes : Nat

/-- The `buffer` of a running instance. -/
def laneBuffer : Nat := 64

namespace Environment

/-- The `work` of a running instance: `Sync.create` for an `add` or an `update`, `Sync.delete` for a
`delete`, and nothing for the `synced` marker, which goes to no lane. -/
def followObject (w : Writer) (now : Instant) (k : Kind) :
    Notification → Plan (Except SyncError Unit)
  | .add o | .update o => Sync.create w now k o
  | .delete o => Sync.delete k o
  | .synced => .done (.ok ())

/-- The environment of an instance that writes as `w` through `perform`, with `lanes` lanes for each
kind. -/
def ofWriter {σ : Type} (perform : Plan.Performer σ) (w : Writer) (lanes : Nat) :
    Environment σ :=
  ⟨perform, followObject w, laneBuffer, lanes⟩

end Environment

/-- Item that a watch delivers: a notification (`notify`), or a `failure`, which `Consumer.read`
passes over. -/
inductive StreamItem where
  | notify (n : Notification)
  | failure

/-- Visible part of a step. A run (`Pipeline.Steps`) is labelled with the list of these, in the
order of its steps. -/
inductive Observation where
  /-- The consumer of `k` took `item` from its watch (`Consumer.read`). -/
  | read (k : Kind) (item : StreamItem)
  /-- A worker of `k` took the notification `n` from its lane (`LaneAction.take`). -/
  | began (k : Kind) (n : Notification)
  /-- A worker of `k` finished the plan for `n` (`LaneAction.finish`); `ok` is whether its result
  was a success. -/
  | ended (k : Kind) (n : Notification) (ok : Bool)
  /-- The consumer of `k` recorded the state `synced` (`Consumer.record`). -/
  | recorded (k : Kind)
  /-- The start subscribed to the watch of `k` (`Pipeline.subscribeNext`). -/
  | watched (k : Kind)

/-! ### Consumers -/

/-- Control state of a consumer. -/
inductive ConsumerPhase where
  /-- Waiting for the next item of the watch (`Consumer.read`). -/
  | reading
  /-- Holding the notification `n` until the lane has room (`Consumer.send`). -/
  | sending (n : Notification) (lane : Nat)
  /-- Sending a flush to this lane and then to those after it (`Consumer.flush`). -/
  | flushing (lane : Nat)
  /-- Waiting until each lane has `flushed` (`Consumer.collect`). -/
  | awaiting
  /-- All lanes have `flushed`; next is `Consumer.record`. -/
  | recording
  /-- The state `synced` is stored; next is `Consumer.signal`, which tells those who wait. -/
  | signalling
  /-- Done with the watch, and waiting for the workers (`Consumer.join`). -/
  | closing
  /-- Final: no action of the consumer itself is possible. -/
  | stopped

/-- The consumer of `kind`. Items in `arrived` were delivered by the watch and not yet read, and
`ended` says that no more will come. -/
structure Consumer where
  kind : Kind
  arrived : List StreamItem
  ended : Bool
  phase : ConsumerPhase
  lanes : List Lane

/-- Actions of the worker of a lane, carried out by `Consumer.actLane`. -/
inductive LaneAction where
  | take
  | call
  | finish
  | halt
deriving DecidableEq

/-- Actions of a consumer (`Consumer.act`), those of its workers included (`lane`). -/
inductive ConsumerAction where
  | read
  | send
  | flush
  | collect
  | record
  | signal
  | leave
  | join
  | lane (i : Nat) (a : LaneAction)
deriving DecidableEq

/-- Result of an action: the consumer and the shared state after it, and what was `seen`. -/
structure ConsumerOutcome (σ : Type) where
  consumer : Consumer
  shared : Shared σ
  seen : List Observation

namespace Consumer

variable {σ : Type}

/-- The consumer of `k` when it is subscribed to: `reading`, with nothing `arrived` and empty lanes,
at least one. -/
def start (k : Kind) (lanes : Nat) : Consumer :=
  ⟨k, [], false, .reading, List.replicate (max lanes 1) Lane.start⟩

/-- Whether every worker is `stopped`, which `join` waits for. -/
def allStopped (c : Consumer) : Bool :=
  c.lanes.all fun l => l.worker.isStopped

/-- Whether every lane has `flushed`, which `collect` waits for. -/
def allFlushed (c : Consumer) : Bool :=
  c.lanes.all Lane.flushed

/-- Whether a lane that has not `flushed` has no worker any more: its answer will never come. -/
def lostFlush (c : Consumer) : Bool :=
  c.lanes.any fun l => !l.flushed && l.worker.isStopped

/-- Whether lane `i` exists and its worker is `stopped`: a message sent to it would be lost. -/
def isLaneStopped (c : Consumer) (i : Nat) : Bool :=
  c.lanes[i]?.any fun l => l.worker.isStopped

/-- Move the consumer to `phase` and change nothing else. -/
def goTo (c : Consumer) (phase : ConsumerPhase) : Consumer :=
  { c with phase }

/-- Take the first item of `arrived`, unless `cancelled`: a `failure` is passed over, the marker
`synced` starts the flush at lane 0, and any other notification waits to be sent to the lane that
`laneFor` gives for its `uid?`. -/
def read (c : Consumer) (s : Shared σ) : Option (ConsumerOutcome σ) :=
  match c.phase, s.cancelled, c.arrived with
  | .reading, false, item :: rest =>
      let c := { c with arrived := rest }
      let phase :=
        match item with
        | .failure => .reading
        | .notify .synced => .flushing 0
        | .notify n => .sending n (laneFor n.uid? c.lanes.length)
      some ⟨c.goTo phase, s, [.read c.kind item]⟩
  | _, _, _ => none

/-- Append the held notification to its lane, if `hasRoom` and not `cancelled`, and go back to
`reading`. -/
def send (env : Environment σ) (c : Consumer) (s : Shared σ) : Option (ConsumerOutcome σ) :=
  match c.phase, s.cancelled with
  | .sending n i, false =>
      match c.lanes[i]? with
      | some l =>
          if l.hasRoom env.buffer then
            some ⟨{ c with lanes := c.lanes.set i (l.send (.handle n)), phase := .reading }, s, []⟩
          else none
      | none => none
  | _, _ => none

/-- Append a flush to the next lane, if it `hasRoom`; after the last lane go to `awaiting`. Unlike
`send`, it goes on after cancellation. -/
def flush (env : Environment σ) (c : Consumer) (s : Shared σ) : Option (ConsumerOutcome σ) :=
  match c.phase with
  | .flushing i =>
      match c.lanes[i]? with
      | some l =>
          if l.hasRoom env.buffer then
            some ⟨{ c with lanes := c.lanes.set i l.sendFlush, phase := .flushing (i + 1) }, s, []⟩
          else none
      | none => some ⟨c.goTo .awaiting, s, []⟩
  | _ => none

/-- Go from `awaiting` to `recording`, if `allFlushed` and not `cancelled`. -/
def collect (c : Consumer) (s : Shared σ) : Option (ConsumerOutcome σ) :=
  match c.phase, s.cancelled with
  | .awaiting, false => if c.allFlushed then some ⟨c.goTo .recording, s, []⟩ else none
  | _, _ => none

/-- Store the state `synced` of the kind, the first half of setting a state; `signal` is the second.
If it is stored already there is nothing to tell, and the consumer is `reading` again. -/
def record (c : Consumer) (s : Shared σ) : Option (ConsumerOutcome σ) :=
  match c.phase with
  | .recording =>
      if s.registry.state? c.kind.name = some .synced then
        some ⟨c.goTo .reading, s, [.recorded c.kind]⟩
      else
        let (registry, metrics) := s.registry.record c.kind.name .synced s.metrics
        some ⟨c.goTo .signalling, { s with registry, metrics }, [.recorded c.kind]⟩
  | _ => none

/-- Notify those who wait that a state has changed, the second half of setting a state
(`Registry.signal`). -/
def signal (c : Consumer) (s : Shared σ) : Option (ConsumerOutcome σ) :=
  match c.phase with
  | .signalling => some ⟨c.goTo .reading, { s with registry := s.registry.signal }, []⟩
  | _ => none

/-- Whether the consumer has to `leave`: the watch `ended` and nothing is left in `arrived`, the
lane to send to `isLaneStopped`, a flush is lost (`lostFlush`), or it is cancelled while it waits
for something other than room for a flush. -/
def mustLeave (c : Consumer) (s : Shared σ) : Bool :=
  match c.phase with
  | .reading => s.cancelled || (c.ended && c.arrived.isEmpty)
  | .sending _ i => s.cancelled || c.isLaneStopped i
  | .flushing i => c.isLaneStopped i
  | .awaiting => s.cancelled || c.lostFlush
  | _ => false

/-- Go to `closing`, if the consumer `mustLeave`. Its lanes get nothing more and run empty. -/
def leave (c : Consumer) (s : Shared σ) : Option (ConsumerOutcome σ) :=
  if c.mustLeave s then some ⟨c.goTo .closing, s, []⟩ else none

/-- Go from `closing` to `stopped`, if `allStopped`. -/
def join (c : Consumer) (s : Shared σ) : Option (ConsumerOutcome σ) :=
  match c.phase with
  | .closing => if c.allStopped then some ⟨c.goTo .stopped, s, []⟩ else none
  | _ => none

/-- Whether the consumer is `closing` or `stopped`, so that no message is sent any more. -/
def isClosed (c : Consumer) : Bool :=
  match c.phase with
  | .closing | .stopped => true
  | _ => false

/-- Whether the worker of `l` may `halt`: after cancellation at any time, otherwise only when the
consumer `isClosed` and the worker has handled all that is in the `queue`. -/
def mayHalt (c : Consumer) (s : Shared σ) (l : Lane) : Bool :=
  !l.worker.isStopped
    && (s.cancelled || (c.isClosed && l.worker.isIdle && l.queue.isEmpty))

/-- Replace lane `i` by `l`. -/
def setLane (c : Consumer) (i : Nat) (l : Lane) : Consumer :=
  { c with lanes := c.lanes.set i l }

/-- Carry out `a` for the worker of lane `i`. The actions `take`, `call` and `finish` go through one
message: take it off the `queue`, make the calls of its plan one by one, and count its result;
`halt` ends the worker. The result is `none` if `a` is not possible. -/
def actLane (env : Environment σ) (i : Nat) (l : Lane) (a : LaneAction) (c : Consumer)
    (s : Shared σ) : Option (ConsumerOutcome σ) :=
  match a, l.worker with
  | .take, .idle =>
      match s.cancelled, l.queue with
      | false, .handle n :: rest =>
          let l := { l with queue := rest, worker := .handling n (env.work s.now c.kind n) }
          some ⟨c.setLane i l, s, [.began c.kind n]⟩
      | false, .flush :: rest =>
          some ⟨c.setLane i { l with queue := rest, flushed := true }, s, []⟩
      | _, _ => none
  | .call, .handling n (.call q next) =>
      let (answer, store) := env.perform q s.store
      some ⟨c.setLane i { l with worker := .handling n (next answer) }, { s with store }, []⟩
  | .finish, .handling n (.done result) =>
      let ok := result.isOk
      let metrics := s.metrics.recordNotification c.kind.name n.name ok
      some ⟨c.setLane i { l with worker := .idle }, { s with metrics }, [.ended c.kind n ok]⟩
  | .halt, _ => if c.mayHalt s l then some ⟨c.setLane i l.halt, s, []⟩ else none
  | _, _ => none

/-- Carry out the action `a`. The result is `none` if it is not possible in this state. -/
def act (env : Environment σ) (a : ConsumerAction) (c : Consumer) (s : Shared σ) :
    Option (ConsumerOutcome σ) :=
  match a with
  | .read => c.read s
  | .send => c.send env s
  | .flush => c.flush env s
  | .collect => c.collect s
  | .record => c.record s
  | .signal => c.signal s
  | .leave => c.leave s
  | .join => c.join s
  | .lane i a =>
      match c.lanes[i]? with
      | some l => actLane env i l a c s
      | none => none

end Consumer

end ClusterGraph
