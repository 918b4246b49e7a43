import ClusterGraph.Dict.Order
import ClusterGraph.Pipeline.Consumer

/-!
# ClusterGraph.Proofs.Pipeline.Consumer

**What one step of a consumer can do, and what can be read off its trace.**

`Consumer.Step` lists the steps with everything they presuppose and everything they change,
so that an invariant is proved by cases on it and no proof opens `Consumer.act`
(`Consumer.step_of_act`). A trace is the list of observations about one kind: which items
were read, which notifications a worker began with, and which it was done with.
-/

namespace ClusterGraph

/-! ## Traces -/

namespace Observation

/-- The kind whose consumer or start made the step. -/
def kind : Observation → Kind
  | read k _ | began k _ | ended k _ _ | recorded k | watched k => k

/-- The item of a `read`. -/
@[simp] def item? : Observation → Option StreamItem
  | read _ item => some item
  | _ => none

/-- The notification of a `began`. -/
@[simp] def begun? : Observation → Option Notification
  | began _ n => some n
  | _ => none

/-- The notification of an `ended`, whether it went well or not. -/
@[simp] def done? : Observation → Option Notification
  | ended _ n _ => some n
  | _ => none

/-- Whether the observation is a `recorded`. -/
def isRecord : Observation → Bool
  | recorded _ => true
  | _ => false

end Observation

/-- The notification that an item brings to a lane. There is none for a `failure` and none for the
marker `synced`. -/
@[simp] def StreamItem.work? : StreamItem → Option Notification
  | .notify (.add o) => some (.add o)
  | .notify (.update o) => some (.update o)
  | .notify (.delete o) => some (.delete o)
  | _ => none

/-- The trace of `k`: the observations of `seen` that are about `k`, in their order. -/
def observed (k : Kind) (seen : List Observation) : List Observation :=
  seen.filter (·.kind = k)

section Trace

variable (own : List Observation)

/-- The items of the `read` observations in `own`. -/
def itemsRead : List StreamItem :=
  own.filterMap Observation.item?

/-- The notifications among `itemsRead own` that go to a lane. -/
def workRead : List Notification :=
  (itemsRead own).filterMap StreamItem.work?

/-- The notifications of the `began` observations in `own`. -/
def workBegun : List Notification :=
  own.filterMap Observation.begun?

/-- The notifications of the `ended` observations in `own`. -/
def workDone : List Notification :=
  own.filterMap Observation.done?

end Trace

/-! ### How traces grow -/

section Growth

variable (k : Kind) (own more : List Observation) (x : Observation)

@[simp] theorem observed_append : observed k (own ++ more) = observed k own ++ observed k more :=
  List.filter_append ..

theorem observed_eq_self {k : Kind} {more : List Observation} (h : ∀ x ∈ more, x.kind = k) :
    observed k more = more :=
  List.filter_eq_self.mpr fun x hx => by simpa using h x hx

theorem observed_eq_nil {k : Kind} {more : List Observation} (h : ∀ x ∈ more, x.kind ≠ k) :
    observed k more = [] :=
  List.filter_eq_nil_iff.mpr fun x hx => by simpa using h x hx

@[simp] theorem itemsRead_append : itemsRead (own ++ more) = itemsRead own ++ itemsRead more :=
  List.filterMap_append

@[simp] theorem itemsRead_singleton : itemsRead [x] = x.item?.toList := by
  cases x <;> rfl

@[simp] theorem workRead_append : workRead (own ++ more) = workRead own ++ workRead more := by
  unfold workRead
  rw [itemsRead_append, List.filterMap_append]

@[simp] theorem workRead_singleton :
    workRead [x] = (x.item?.bind StreamItem.work?).toList := by
  cases x with
  | read k item =>
      cases item with
      | failure => rfl
      | notify n => cases n <;> rfl
  | _ => rfl

@[simp] theorem workBegun_append : workBegun (own ++ more) = workBegun own ++ workBegun more :=
  List.filterMap_append

@[simp] theorem workBegun_singleton : workBegun [x] = x.begun?.toList := by
  cases x <;> rfl

@[simp] theorem workDone_append : workDone (own ++ more) = workDone own ++ workDone more :=
  List.filterMap_append

@[simp] theorem workDone_singleton : workDone [x] = x.done?.toList := by
  cases x <;> rfl

end Growth

/-! ## Steps -/

namespace Consumer

variable {σ : Type}

@[simp] theorem kind_start (k : Kind) (lanes : Nat) : (start k lanes).kind = k :=
  rfl

/-- Inversion of `Consumer.act`: `Step env c s o` lists, with everything they presuppose, the ways
in which an action of `c` or of one of its workers can lead to the outcome `o`. -/
inductive Step (env : Environment σ) (c : Consumer) (s : Shared σ) : ConsumerOutcome σ → Prop where
  /-- A `failure` is taken from `arrived`, and the consumer goes on `reading`. -/
  | readFailure {rest : List StreamItem} (hphase : c.phase = .reading)
      (hlive : s.cancelled = false) (harrived : c.arrived = .failure :: rest) :
      Step env c s
        ⟨{ c with arrived := rest, phase := .reading }, s, [.read c.kind .failure]⟩
  /-- The marker `synced` is taken from `arrived`, and the lanes are to be flushed from lane 0
  on. -/
  | readMarker {rest : List StreamItem} (hphase : c.phase = .reading)
      (hlive : s.cancelled = false) (harrived : c.arrived = .notify .synced :: rest) :
      Step env c s
        ⟨{ c with arrived := rest, phase := .flushing 0 }, s, [.read c.kind (.notify .synced)]⟩
  /-- The notification `n` is taken from `arrived`, and `laneFor` chooses its lane. -/
  | readWork {n : Notification} {rest : List StreamItem} (hphase : c.phase = .reading)
      (hlive : s.cancelled = false) (harrived : c.arrived = .notify n :: rest)
      (hwork : (StreamItem.notify n).work? = some n) :
      Step env c s
        ⟨{ c with arrived := rest, phase := .sending n (laneFor n.uid? c.lanes.length) }, s,
          [.read c.kind (.notify n)]⟩
  | send {n : Notification} {i : Nat} {l : Lane} (hphase : c.phase = .sending n i)
      (hlive : s.cancelled = false) (hlane : c.lanes[i]? = some l)
      (hroom : l.hasRoom env.buffer = true) :
      Step env c s
        ⟨{ c with lanes := c.lanes.set i (l.send (.handle n)), phase := .reading }, s, []⟩
  | flush {i : Nat} {l : Lane} (hphase : c.phase = .flushing i) (hlane : c.lanes[i]? = some l)
      (hroom : l.hasRoom env.buffer = true) :
      Step env c s
        ⟨{ c with lanes := c.lanes.set i l.sendFlush, phase := .flushing (i + 1) }, s, []⟩
  | await {i : Nat} (hphase : c.phase = .flushing i) (hlane : c.lanes[i]? = none) :
      Step env c s ⟨c.goTo .awaiting, s, []⟩
  | collect (hphase : c.phase = .awaiting) (hlive : s.cancelled = false)
      (hflushed : c.allFlushed = true) : Step env c s ⟨c.goTo .recording, s, []⟩
  /-- A kind that is `synced` already: the marker is seen as recorded, but nothing changes. -/
  | recordAgain (hphase : c.phase = .recording)
      (hstate : s.registry.state? c.kind.name = some .synced) :
      Step env c s ⟨c.goTo .reading, s, [.recorded c.kind]⟩
  /-- A kind that is not: its state is `synced` from now on, and `signal` follows. -/
  | recordFirst {registry : Registry} {metrics : Metrics} (hphase : c.phase = .recording)
      (hrecord : s.registry.record c.kind.name .synced s.metrics = (registry, metrics)) :
      Step env c s ⟨c.goTo .signalling, { s with registry, metrics }, [.recorded c.kind]⟩
  | signal (hphase : c.phase = .signalling) :
      Step env c s ⟨c.goTo .reading, { s with registry := s.registry.signal }, []⟩
  | leave (hleave : c.mustLeave s = true) : Step env c s ⟨c.goTo .closing, s, []⟩
  | join (hphase : c.phase = .closing) (hstopped : c.allStopped = true) :
      Step env c s ⟨c.goTo .stopped, s, []⟩
  | take {i : Nat} {l : Lane} {n : Notification} {rest : List LaneMessage}
      (hlane : c.lanes[i]? = some l) (hidle : l.worker = .idle) (hlive : s.cancelled = false)
      (hqueue : l.queue = .handle n :: rest) :
      Step env c s
        ⟨c.setLane i { l with queue := rest, worker := .handling n (env.work s.now c.kind n) }, s,
          [.began c.kind n]⟩
  | answer {i : Nat} {l : Lane} {rest : List LaneMessage} (hlane : c.lanes[i]? = some l)
      (hidle : l.worker = .idle) (hlive : s.cancelled = false)
      (hqueue : l.queue = .flush :: rest) :
      Step env c s ⟨c.setLane i { l with queue := rest, flushed := true }, s, []⟩
  | call {i : Nat} {l : Lane} {n : Notification} {q : Call}
      {next : Except StoreError q.Answer → Plan (Except SyncError Unit)}
      (hlane : c.lanes[i]? = some l) (hworker : l.worker = .handling n (.call q next)) :
      Step env c s
        ⟨c.setLane i { l with worker := .handling n (next (env.perform q s.store).1) },
          { s with store := (env.perform q s.store).2 }, []⟩
  | finish {i : Nat} {l : Lane} {n : Notification} {result : Except SyncError Unit}
      (metrics : Metrics) (hlane : c.lanes[i]? = some l)
      (hworker : l.worker = .handling n (.done result))
      (hmetrics : metrics = s.metrics.recordNotification c.kind.name n.name result.isOk) :
      Step env c s
        ⟨c.setLane i { l with worker := .idle }, { s with metrics },
          [.ended c.kind n result.isOk]⟩
  | halt {i : Nat} {l : Lane} (hlane : c.lanes[i]? = some l) (hhalt : c.mayHalt s l = true) :
      Step env c s ⟨c.setLane i l.halt, s, []⟩

section Inversion

variable {env : Environment σ} {c : Consumer} {s : Shared σ} {o : ConsumerOutcome σ}

theorem step_of_read (h : c.read s = some o) : Step env c s o := by
  unfold read at h
  split at h
  · rename_i item rest hphase hlive harrived
    cases h
    cases item with
    | failure => exact .readFailure hphase hlive harrived
    | notify n =>
        cases n with
        | synced => exact .readMarker hphase hlive harrived
        | add raw => exact .readWork hphase hlive harrived rfl
        | update raw => exact .readWork hphase hlive harrived rfl
        | delete raw => exact .readWork hphase hlive harrived rfl
  · cases h

theorem step_of_send (h : c.send env s = some o) : Step env c s o := by
  unfold send at h
  split at h
  · rename_i n i hphase hlive
    split at h
    · rename_i l hlane
      obtain ⟨hroom, h⟩ := Option.ite_none_right_eq_some.mp h
      cases h
      exact .send hphase hlive hlane hroom
    · cases h
  · cases h

theorem step_of_flush (h : c.flush env s = some o) : Step env c s o := by
  unfold flush at h
  split at h
  · rename_i i hphase
    split at h
    · rename_i l hlane
      obtain ⟨hroom, h⟩ := Option.ite_none_right_eq_some.mp h
      cases h
      exact .flush hphase hlane hroom
    · rename_i hlane
      cases h
      exact .await hphase hlane
  · cases h

theorem step_of_collect (h : c.collect s = some o) : Step env c s o := by
  unfold collect at h
  split at h
  · rename_i hphase hlive
    obtain ⟨hflushed, h⟩ := Option.ite_none_right_eq_some.mp h
    cases h
    exact .collect hphase hlive hflushed
  · cases h

theorem step_of_record (h : c.record s = some o) : Step env c s o := by
  unfold record at h
  split at h
  · rename_i hphase
    split at h
    · rename_i hstate
      cases h
      exact .recordAgain hphase hstate
    · cases h
      exact .recordFirst hphase rfl
  · cases h

theorem step_of_actLane {i : Nat} {l : Lane} {a : LaneAction} (hlane : c.lanes[i]? = some l)
    (h : actLane env i l a c s = some o) : Step env c s o := by
  unfold actLane at h
  split at h
  · rename_i hidle
    split at h
    · rename_i n rest hlive hqueue
      cases h
      exact .take hlane hidle hlive hqueue
    · rename_i rest hlive hqueue
      cases h
      exact .answer hlane hidle hlive hqueue
    · cases h
  · rename_i n q next hworker
    cases h
    exact .call hlane hworker
  · rename_i n result hworker
    cases h
    exact .finish _ hlane hworker rfl
  · obtain ⟨hhalt, h⟩ := Option.ite_none_right_eq_some.mp h
    cases h
    exact .halt hlane hhalt
  · cases h

theorem step_of_signal (h : c.signal s = some o) : Step env c s o := by
  unfold signal at h
  split at h
  · rename_i hphase
    cases h
    exact .signal hphase
  · cases h

theorem step_of_leave (h : c.leave s = some o) : Step env c s o := by
  unfold leave at h
  obtain ⟨hleave, h⟩ := Option.ite_none_right_eq_some.mp h
  cases h
  exact .leave hleave

theorem step_of_join (h : c.join s = some o) : Step env c s o := by
  unfold join at h
  split at h
  · rename_i hphase
    obtain ⟨hstopped, h⟩ := Option.ite_none_right_eq_some.mp h
    cases h
    exact .join hphase hstopped
  · cases h

/-- Every outcome of `act` is one of the steps. So an invariant is proved by cases on `Step`, and no
proof about runs has to open `act`. -/
theorem step_of_act {a : ConsumerAction} (h : c.act env a s = some o) : Step env c s o := by
  cases a with
  | read => exact step_of_read h
  | send => exact step_of_send h
  | flush => exact step_of_flush h
  | collect => exact step_of_collect h
  | record => exact step_of_record h
  | signal => exact step_of_signal h
  | leave => exact step_of_leave h
  | join => exact step_of_join h
  | lane i a =>
      rw [act] at h
      split at h
      · rename_i l hlane
        exact step_of_actLane hlane h
      · cases h

end Inversion

namespace Step

variable {env : Environment σ} {c : Consumer} {s : Shared σ} {o : ConsumerOutcome σ}

theorem kind_eq (h : Step env c s o) : o.consumer.kind = c.kind := by
  cases h <;> rfl

theorem length_lanes (h : Step env c s o) : o.consumer.lanes.length = c.lanes.length := by
  cases h <;> simp [goTo, setLane]

/-- No step of a consumer cancels the run or takes that back. -/
theorem cancelled_eq (h : Step env c s o) : o.shared.cancelled = s.cancelled := by
  cases h <;> rfl

theorem kind_of_mem_seen (h : Step env c s o) : ∀ x ∈ o.seen, x.kind = c.kind := by
  cases h <;> simp [Observation.kind]

theorem length_seen_le (h : Step env c s o) : o.seen.length ≤ 1 := by
  cases h <;> simp

/-- A step of a consumer either leaves the state of `name` as it is or makes it `synced`. -/
theorem state?_eq (h : Step env c s o) (name : String) :
    o.shared.registry.state? name = s.registry.state? name
      ∨ o.shared.registry.state? name = some .synced := by
  cases h with
  | recordFirst hphase hrecord =>
      cases hrecord
      show Dict.find? (Dict.insert _ _ _) name = _ ∨ Dict.find? (Dict.insert _ _ _) name = _
      rw [Dict.find?_insert]
      split
      · exact .inr rfl
      · exact .inl rfl
  | _ => exact .inl rfl

end Step

end Consumer

end ClusterGraph
