import ClusterGraph.Projection.Sync
import ClusterGraph.Watch.Notification

/-!
# ClusterGraph.Pipeline.Lane

**Lanes: the queues in which the notifications of one kind are handled side by side.**

Notifications about one object always go to the same lane, which handles them one after the
other; different lanes work at the same time.

Design points:

* the lane of an object is a fixed function of its unique identifier, so it stays the same
  from one run to the next;
* a lane holds a bounded number of messages, and whoever sends more has to wait;
* a worker makes the calls of its plan one by one, so the calls of different lanes may come
  in any order.
-/

namespace ClusterGraph

/-! ### Choosing a lane -/

/-- The hash of a `uid`: its bytes as digits to base 31, wrapping in words of 64 bits. -/
def laneHash (s : String) : UInt64 :=
  s.toUTF8.toList.foldl (fun h b => h * 31 + b.toUInt64) 0

/-- The lane of the object with `uid`, a number below `max lanes 1` (`laneFor_lt`). Objects without
a `uid` all go to the lane of the empty text. -/
def laneFor (uid : Option String) (lanes : Nat) : Nat :=
  (laneHash (uid.getD "")).toNat % max lanes 1

theorem laneFor_lt (uid : Option String) (lanes : Nat) : laneFor uid lanes < max lanes 1 :=
  Nat.mod_lt _ (by omega)

/-! ### Lanes -/

/-- Message of a lane. -/
inductive LaneMessage where
  /-- Carry out the work for the notification `n`. -/
  | handle (n : Notification)
  /-- Set `Lane.flushed`. As a `queue` is read in order, every message sent before it has been
  handled then. -/
  | flush

/-- Control state of the worker of a lane. -/
inductive Worker where
  /-- Waiting for the next message of the `queue`. -/
  | idle
  /-- Carrying out the plan for `n`, of which `rest` is left. -/
  | handling (n : Notification) (rest : Plan (Except SyncError Unit))
  /-- Final: the worker takes no message any more. -/
  | stopped

namespace Worker

/-- Whether the worker is `stopped`. -/
def isStopped : Worker → Bool
  | stopped => true
  | _ => false

/-- Whether the worker is `idle`. -/
def isIdle : Worker → Bool
  | idle => true
  | _ => false

end Worker

/-- A lane: the `queue` of its messages, the oldest first, its `worker`, and whether the latest
flush has been answered (`flushed`). -/
structure Lane where
  queue : List LaneMessage
  worker : Worker
  flushed : Bool

namespace Lane

/-- The lane of a consumer that starts: an empty `queue` and an `idle` worker. -/
def start : Lane :=
  ⟨[], .idle, false⟩

/-- Whether a message can be sent: the worker is not `stopped`, and the `queue` holds fewer than
`buffer` messages. -/
def hasRoom (buffer : Nat) (l : Lane) : Bool :=
  !l.worker.isStopped && decide (l.queue.length < buffer)

/-- Append `m` to the `queue`. -/
def send (l : Lane) (m : LaneMessage) : Lane :=
  { l with queue := l.queue ++ [m] }

/-- Append a flush to the `queue` and wait for its answer: `flushed` is reset. -/
def sendFlush (l : Lane) : Lane :=
  { l.send .flush with flushed := false }

/-- Stop the worker for good; what is left in the `queue` is dropped. -/
def halt (l : Lane) : Lane :=
  { l with queue := [], worker := .stopped }

end Lane

end ClusterGraph
