import ClusterGraph.Proofs.Pipeline.Draining
import ClusterGraph.Proofs.Pipeline.Refinement
import ClusterGraph.Proofs.Pipeline.Working

/-!
# ClusterGraph.Proofs.Pipeline.Dispatching

**Without cancellation everything that a watch brings about an object is handled once, in the
order in which it came, and counted once.**

Three things make this up. The accounts of the lanes say that at every moment a part of the
stream was handled that is its beginning, seen from any one object. A consumer turns away from
its watch only when nothing more comes, and stops only after its workers
(`Consumer.RunsOut`); so once it has stopped, the beginning is the whole. And until then
there is always something that it or one of its workers can do (`Consumer.exists_act`).

The counters go along with the trace, whatever else happens: each notification that is done
adds one to the counter of its kind and outcome (`Pipeline.Steps.notifications`).
-/

namespace ClusterGraph

theorem Lane.current_of_isStopped {l : Lane} (h : l.worker.isStopped = true) : l.current = [] := by
  cases hworker : l.worker with
  | stopped =>
      unfold current
      rw [hworker]
  | _ =>
      rw [hworker] at h
      cases h

namespace Consumer

variable {σ : Type} {env : Environment σ} {c : Consumer} {s : Shared σ} {o : ConsumerOutcome σ}
  {own : List Observation}

/-! ## Until nothing is left -/

/-- Invariant of a run that is not cancelled, about its end: the consumer `isClosed` only when its
watch `ended` with nothing left in `arrived`, it is `stopped` only after its workers, and a worker
that has stopped leaves nothing in its `queue`. -/
structure RunsOut (c : Consumer) : Prop where
  closed : c.isClosed = true → c.ended = true ∧ c.arrived = []
  stopped : c.phase = .stopped → ∀ l ∈ c.lanes, l.worker.isStopped = true
  emptied : ∀ l ∈ c.lanes, l.worker.isStopped = true → l.queue = []

theorem runsOut_of_start {kind : Kind} {arrived : List StreamItem} {ended : Bool} (lanes : Nat) :
    ({ start kind lanes with arrived, ended } : Consumer).RunsOut :=
  ⟨nofun, nofun, fun l hl hstopped => by
    rw [List.eq_of_mem_replicate hl] at hstopped
    cases hstopped⟩

theorem isClosed_of_stopped (h : c.phase = .stopped) : c.isClosed = true := by
  unfold isClosed
  rw [h]

/-- For a consumer that is not closed, the invariant is about its lanes alone. -/
theorem runsOut_of_open (hopen : c.isClosed = false)
    (h : ∀ l ∈ c.lanes, l.worker.isStopped = true → l.queue = []) : c.RunsOut := by
  refine ⟨fun hclosed => ?_, fun hphase => ?_, h⟩
  · rw [hopen] at hclosed
    cases hclosed
  · rw [isClosed_of_stopped hphase] at hopen
    cases hopen

namespace RunsOut

theorem set (h : c.RunsOut) {i : Nat} {l' : Lane}
    (hl' : l'.worker.isStopped = true → l'.queue = []) :
    ∀ l ∈ c.lanes.set i l', l.worker.isStopped = true → l.queue = [] := by
  intro l hl
  rcases List.mem_or_eq_of_mem_set hl with hl | rfl
  · exact h.emptied l hl
  · exact hl'

/-- The invariant is kept if lane `i` is replaced while its worker is running. -/
theorem setRunning (h : c.RunsOut) {i : Nat} {l l' : Lane} (hlane : c.lanes[i]? = some l)
    (hrunning : l.worker.isStopped = false) (hl' : l'.worker.isStopped = true → l'.queue = []) :
    (c.setLane i l').RunsOut := by
  refine ⟨h.closed, fun hphase => ?_, h.set hl'⟩
  have hstopped := h.stopped hphase l (List.mem_of_getElem? hlane)
  rw [hrunning] at hstopped
  cases hstopped

/-- When the consumer is `stopped`, nothing is left to read, to send or to handle. -/
theorem isDrained (h : c.RunsOut) (hphase : c.phase = .stopped) : c.IsDrained := by
  refine ⟨(h.closed (isClosed_of_stopped hphase)).2, fun n i hsending => ?_, fun l hl => ?_⟩
  · rw [hphase] at hsending
    cases hsending
  · have hstopped := h.stopped hphase l hl
    refine ⟨?_, Lane.current_of_isStopped hstopped⟩
    unfold Lane.waiting
    rw [h.emptied l hl hstopped]
    rfl

end RunsOut

/-- As no worker has stopped (`Accounts.running`), the watch that `ended` is the only reason to
`leave`. -/
theorem Accounts.of_leave (h : c.Accounts own) (hlive : s.cancelled = false)
    (hleave : c.mustLeave s = true) : c.ended = true ∧ c.arrived = [] := by
  have hno : ∀ l ∈ c.lanes, c.isClosed = false → l.worker.isStopped = true → False := by
    intro l hl hopen hstopped
    rw [h.running hopen l hl] at hstopped
    cases hstopped
  unfold mustLeave at hleave
  split at hleave
  · rw [hlive, Bool.false_or, Bool.and_eq_true, List.isEmpty_iff] at hleave
    exact hleave
  · rename_i n i hphase
    rw [hlive, Bool.false_or, isLaneStopped, Option.any_eq_true] at hleave
    obtain ⟨l, hlane, hstopped⟩ := hleave
    exact (hno l (List.mem_of_getElem? hlane) (by simp [isClosed, hphase]) hstopped).elim
  · rename_i i hphase
    rw [isLaneStopped, Option.any_eq_true] at hleave
    obtain ⟨l, hlane, hstopped⟩ := hleave
    exact (hno l (List.mem_of_getElem? hlane) (by simp [isClosed, hphase]) hstopped).elim
  · rename_i hphase
    rw [hlive, Bool.false_or, lostFlush, List.any_eq_true] at hleave
    obtain ⟨l, hl, hlost⟩ := hleave
    rw [Bool.and_eq_true] at hlost
    exact (hno l hl (by simp [isClosed, hphase]) hlost.2).elim
  · cases hleave

/-- Step lemma of `RunsOut`: a step keeps it, unless the run is cancelled. -/
theorem Step.runsOut (hstep : Step env c s o) (hlive : s.cancelled = false)
    (haccounts : c.Accounts own) (h : c.RunsOut) : o.consumer.RunsOut := by
  cases hstep with
  | readFailure | readMarker | readWork | await | collect | recordAgain | recordFirst | signal =>
      exact runsOut_of_open rfl h.emptied
  | send _ _ hlane hroom | flush _ hlane hroom =>
      refine runsOut_of_open rfl (h.set fun hstopped => ?_)
      rw [Lane.hasRoom, Bool.and_eq_true, Bool.not_eq_true'] at hroom
      have hrunning := hroom.1.symm.trans hstopped
      cases hrunning
  | leave hleave =>
      refine ⟨fun _ => haccounts.of_leave hlive hleave, fun hphase => ?_, h.emptied⟩
      cases hphase
  | join hphase hstopped =>
      refine ⟨fun _ => h.closed ?_, fun _ => List.all_eq_true.mp hstopped, h.emptied⟩
      simp [isClosed, hphase]
  | take hlane hidle =>
      exact h.setRunning hlane (by rw [hidle]; rfl) fun hstopped => by cases hstopped
  | @answer i l rest hlane hidle =>
      refine h.setRunning hlane (by rw [hidle]; rfl) fun hstopped => ?_
      have hstopped : l.worker.isStopped = true := hstopped
      rw [hidle] at hstopped
      cases hstopped
  | call hlane hworker | finish _ hlane hworker =>
      exact h.setRunning hlane (by rw [hworker]; rfl) fun hstopped => by cases hstopped
  | halt hlane hhalt =>
      rw [mayHalt, Bool.and_eq_true, Bool.not_eq_true'] at hhalt
      exact h.setRunning hlane hhalt.1 fun _ => rfl

/-- On each lane, `workBegun` is a prefix of `workRead`. -/
theorem Accounts.begun_prefix (h : c.Accounts own) {i : Nat} {l : Lane}
    (hlane : c.lanes[i]? = some l) :
    onLane c.lanes.length i (workBegun own) <+: onLane c.lanes.length i (workRead own) := by
  rw [h.read i l hlane, List.append_assoc]
  exact List.prefix_append _ _

theorem Accounts.begun_of_drained (h : c.Accounts own) (hdrained : c.IsDrained) {i : Nat} {l : Lane}
    (hlane : c.lanes[i]? = some l) :
    onLane c.lanes.length i (workBegun own) = onLane c.lanes.length i (workDone own) := by
  rw [h.begun i l hlane, (hdrained.handled l (List.mem_of_getElem? hlane)).2, List.append_nil]

/-! ## There is always something to do -/

/-- A worker that is at a notification or has a message in its `queue` can do something. -/
theorem exists_act_of_lane (hlive : s.cancelled = false) {i : Nat} {l : Lane}
    (hlane : c.lanes[i]? = some l) (hrunning : l.worker.isStopped = false)
    (hbusy : l.worker.isIdle = true → l.queue ≠ []) : ∃ a, (c.act env a s).isSome = true := by
  have hact : ∀ a, c.act env (.lane i a) s = actLane env i l a c s := by
    intro a
    simp only [act, hlane]
  cases hworker : l.worker with
  | idle =>
      refine ⟨.lane i .take, ?_⟩
      rw [hact, actLane.eq_def]
      rw [hworker] at hbusy
      rw [hworker]
      cases hqueue : l.queue with
      | nil => exact absurd hqueue (hbusy rfl)
      | cons message rest => cases message <;> simp [hlive]
  | handling n rest =>
      cases rest with
      | done result =>
          refine ⟨.lane i .finish, ?_⟩
          rw [hact, actLane.eq_def]
          simp [hworker]
      | call q next =>
          refine ⟨.lane i .call, ?_⟩
          rw [hact, actLane.eq_def]
          simp [hworker]
  | stopped =>
      rw [hworker] at hrunning
      cases hrunning

/-- A lane whose worker is running `hasRoom`, or its worker can do something. This takes a `buffer`
above 0. -/
theorem exists_act_or_hasRoom (hlive : s.cancelled = false) (hbuffer : 0 < env.buffer) {i : Nat}
    {l : Lane} (hlane : c.lanes[i]? = some l) (hrunning : l.worker.isStopped = false) :
    l.hasRoom env.buffer = true ∨ ∃ a, (c.act env a s).isSome = true := by
  by_cases hqueue : l.queue = []
  · left
    rw [Lane.hasRoom, hrunning, hqueue]
    simpa using hbuffer
  · exact .inr (exists_act_of_lane hlive hlane hrunning fun _ => hqueue)

theorem exists_act_of_mayHalt {i : Nat} {l : Lane} (hlane : c.lanes[i]? = some l)
    (hhalt : c.mayHalt s l = true) : ∃ a, (c.act env a s).isSome = true := by
  refine ⟨.lane i .halt, ?_⟩
  simp only [act, hlane]
  rw [actLane.eq_def]
  simp [hhalt]

/-- A consumer that is `recording` or `signalling` can always go on. -/
theorem exists_act_of_marking (hphase : c.phase = .recording ∨ c.phase = .signalling) :
    ∃ a, (c.act env a s).isSome = true := by
  rcases hphase with hp | hp
  · refine ⟨.record, ?_⟩
    simp only [act, record, hp]
    split <;> rfl
  · refine ⟨.signal, ?_⟩
    simp [act, signal, hp]

/-- There is something to do: an item has `arrived`, the watch has `ended`, the consumer is not
`reading`, or a lane has a message or a worker that is at one. -/
def HasWork (c : Consumer) : Prop :=
  c.arrived ≠ [] ∨ c.ended = true ∨ c.phase ≠ .reading
    ∨ ∃ l ∈ c.lanes, l.queue ≠ [] ∨ l.worker.isIdle = false

/-- Progress: if there is something to do and the run is not cancelled, the consumer or one of its
workers can do something. -/
theorem exists_act_of_hasWork (h : c.Flushes own) (hlive : s.cancelled = false)
    (hbuffer : 0 < env.buffer) (hphase : c.phase ≠ .stopped) (hwork : c.HasWork) :
    ∃ a, (c.act env a s).isSome = true := by
  have hrunning := h.accounts.running
  cases hp : c.phase with
  | reading =>
      rcases hwork with harrived | hended | hreading | ⟨l, hl, hbusy⟩
      · refine ⟨.read, ?_⟩
        obtain ⟨item, rest, harrived⟩ := List.exists_cons_of_ne_nil harrived
        simp [act, read, hp, hlive, harrived]
      · cases harrived : c.arrived with
        | nil =>
            refine ⟨.leave, ?_⟩
            simp [act, leave, mustLeave, hp, hended, harrived]
        | cons item rest =>
            refine ⟨.read, ?_⟩
            simp [act, read, hp, hlive, harrived]
      · exact absurd hp hreading
      · obtain ⟨i, hlane⟩ := List.mem_iff_getElem?.mp hl
        have hworking := hrunning (by simp [isClosed, hp]) l hl
        refine exists_act_of_lane hlive hlane hworking fun hidle => ?_
        refine hbusy.resolve_right fun hnot => ?_
        rw [hidle] at hnot
        cases hnot
  | sending n i =>
      have hi : i < c.lanes.length := by
        rw [← h.accounts.addressed n i hp]
        exact h.accounts.inOrder.laneFor_lt_length n.uid?
      have hlane := List.getElem?_eq_getElem hi
      rcases exists_act_or_hasRoom hlive hbuffer hlane
        (hrunning (by simp [isClosed, hp]) _ (List.getElem_mem hi)) with hroom | hact
      · refine ⟨.send, ?_⟩
        simp [act, send, hp, hlive, hlane, hroom]
      · exact hact
  | flushing i =>
      cases hlane : c.lanes[i]? with
      | none =>
          refine ⟨.flush, ?_⟩
          simp [act, flush, hp, hlane]
      | some l =>
          rcases exists_act_or_hasRoom hlive hbuffer hlane
            (hrunning (by simp [isClosed, hp]) _ (List.mem_of_getElem? hlane)) with hroom | hact
          · refine ⟨.flush, ?_⟩
            simp [act, flush, hp, hlane, hroom]
          · exact hact
  | awaiting =>
      by_cases hflushed : c.allFlushed = true
      · refine ⟨.collect, ?_⟩
        simp [act, collect, hp, hlive, hflushed]
      -- A lane that has not answered still has the flush to take up.
      · rw [allFlushed, Bool.not_eq_true, List.all_eq_false] at hflushed
        obtain ⟨l, hl, hunanswered⟩ := hflushed
        obtain ⟨i, hlane⟩ := List.mem_iff_getElem?.mp hl
        refine exists_act_of_lane hlive hlane (hrunning (by simp [isClosed, hp]) l hl) fun _ => ?_
        have hfits := h.fits i l hlane
        rw [hp, Lane.Fits, Lane.Asked, if_neg hunanswered] at hfits
        obtain ⟨before, hqueue, -⟩ := hfits
        rw [hqueue]
        exact List.append_ne_nil_of_right_ne_nil _ (List.cons_ne_nil _ _)
  | recording => exact exists_act_of_marking (.inl hp)
  | signalling => exact exists_act_of_marking (.inr hp)
  | closing =>
      by_cases hstopped : c.allStopped = true
      · refine ⟨.join, ?_⟩
        simp [act, join, hp, hstopped]
      · rw [allStopped, Bool.not_eq_true, List.all_eq_false] at hstopped
        obtain ⟨l, hl, hworking⟩ := hstopped
        obtain ⟨i, hlane⟩ := List.mem_iff_getElem?.mp hl
        by_cases hdone : l.worker.isIdle = true ∧ l.queue = []
        · refine exists_act_of_mayHalt hlane ?_
          simp [mayHalt, hworking, isClosed, hp, hdone.1, hdone.2]
        · refine exists_act_of_lane hlive hlane (by simpa using hworking) fun hidle hqueue => ?_
          exact hdone ⟨hidle, hqueue⟩
  | stopped => exact absurd hp hphase

/-- The case of `exists_act_of_hasWork` in which the watch has `ended`: there is something to do
until the consumer is `stopped`. -/
theorem exists_act (h : c.Flushes own) (hlive : s.cancelled = false) (hbuffer : 0 < env.buffer)
    (hended : c.ended = true) (hphase : c.phase ≠ .stopped) :
    ∃ a, (c.act env a s).isSome = true :=
  exists_act_of_hasWork h hlive hbuffer hphase (.inr (.inl hended))

end Consumer

/-! ## The counters -/

/-- The labels of the counter that an observation adds to: only `ended` adds to one. -/
def Observation.counter? : Observation → Option (List String)
  | ended k n ok => some [n.name, k.name, outcomeText ok]
  | _ => none

/-- Value of the counter of notifications with these `labels`, 0 if it was never added to. -/
def Metrics.handled (m : Metrics) (labels : List String) : Int :=
  (m.notifications.find? labels).getD 0

theorem Metrics.handled_recordNotification (m : Metrics) (kind event : String) (ok : Bool)
    (labels : List String) : (m.recordNotification kind event ok).handled labels
      = m.handled labels + if [event, kind, outcomeText ok] = labels then 1 else 0 := by
  unfold handled recordNotification
  rw [Samples.find?_add]
  split
  · rename_i heq
    rw [heq]
    rfl
  · rw [Int.add_zero]

/-- A step adds to each counter the number of its observations with these `labels`. -/
theorem Consumer.Step.handled {σ : Type} {env : Environment σ} {c : Consumer} {s : Shared σ}
    {o : ConsumerOutcome σ} (hstep : Step env c s o) (labels : List String) :
    o.shared.metrics.handled labels
      = s.metrics.handled labels + o.seen.countP fun x => x.counter? = some labels := by
  cases hstep with
  | @finish i l n result metrics _ _ hmetrics =>
      rw [hmetrics, Metrics.handled_recordNotification, List.countP_singleton]
      by_cases heq : [n.name, c.kind.name, outcomeText result.isOk] = labels
      · simp [Observation.counter?, heq]
      · simp [Observation.counter?, heq]
  | recordFirst _ hrecord =>
      cases hrecord
      exact (Int.add_zero _).symm
  | _ => exact (Int.add_zero _).symm

/-! ## Runs -/

namespace Pipeline

variable {σ : Type} {env : Environment σ}

theorem handled_setState (p : Pipeline σ) (k : Kind) (state : SubscriptionState)
    (labels : List String) :
    (p.setState k state).shared.metrics.handled labels = p.shared.metrics.handled labels := by
  have hsame : (p.setState k state).shared.metrics.notifications = p.shared.metrics.notifications :=
    Registry.notifications_setState k.name state p.shared.registry p.shared.metrics
  rw [Metrics.handled, Metrics.handled, hsame]

/-- Along a run, each counter grows by the number of observations with these `labels`. -/
theorem Steps.handled {p q : Pipeline σ} {seen : List Observation} (h : Steps env p seen q)
    (labels : List String) :
    q.shared.metrics.handled labels
      = p.shared.metrics.handled labels + seen.countP fun x => x.counter? = some labels := by
  induction h with
  | refl => exact (Int.add_zero _).symm
  | @act r o seen h a ha ih =>
      rw [List.countP_append, Int.natCast_add, ← Int.add_assoc, ← ih]
      rcases act_cases ha with hstart | ⟨i, c, co, hc, hstep, rfl⟩
      · cases hstart with
        | probe | subscribe =>
            refine (handled_setState r _ _ labels).trans ?_
            exact (Int.add_zero _).symm
        | _ => exact (Int.add_zero _).symm
      · exact hstep.handled labels
  | receive _ e ih =>
      rw [← ih]
      cases e <;> rfl

/-- The observation `ended` comes from a worker whose plan is `done`, and tells whether its result
was a success. -/
theorem exists_finishing_of_seen {p : Pipeline σ} {a : PipelineAction} {o : PipelineOutcome σ}
    {k : Kind} {n : Notification} {ok : Bool} (h : p.act env a = some o)
    (hseen : o.seen = [.ended k n ok]) :
    ∃ c ∈ p.consumers, c.kind = k ∧ ∃ l ∈ c.lanes, ∃ result : Except SyncError Unit,
      l.worker = .handling n (.done result) ∧ ok = result.isOk := by
  rcases act_cases h with hstart | ⟨i, c, co, hc, hstep, rfl⟩
  · cases hstart <;> cases hseen
  · have hmem := List.mem_of_getElem? hc
    cases hstep with
    | @finish i l n result metrics hlane hworker =>
        cases hseen
        exact ⟨c, hmem, rfl, l, List.mem_of_getElem? hlane, result, hworker, rfl⟩
    | _ => cases hseen

variable {s : Shared σ} {sources : List Source}

theorem followsPlans_ofSources : (ofSources s sources).FollowsPlans env := by
  intro c hc
  obtain ⟨source, -, rfl⟩ := List.mem_map.mp hc
  exact Consumer.followsPlans_of_start fun l hl => List.eq_of_mem_replicate hl

/-- Invariant of a run from `ofSources`: each consumer has the number of lanes of its source, and
until cancellation it satisfies `Flushes` and `RunsOut`. -/
def Dispatches (sources : List Source) (cancelled : Bool) (c : Consumer)
    (own : List Observation) : Prop :=
  (∀ source ∈ sources, source.kind = c.kind → c.lanes.length = max source.lanes 1) ∧
    (cancelled = false → c.Flushes own ∧ c.RunsOut)

theorem stable_dispatches (env : Environment σ) (sources : List Source) :
    Stable env (fun _ => True) fun _ cancelled c own => Dispatches sources cancelled c own where
  store _ _ _ := trivial
  own hstep _ h := by
    refine ⟨fun source hsource hkind => ?_, fun hlive => ?_⟩
    · exact hstep.length_lanes.trans (h.1 source hsource (hkind.trans hstep.kind_eq))
    · obtain ⟨hflushes, hrunsOut⟩ := h.2 hlive
      exact ⟨hstep.flushes hlive hflushes, hstep.runsOut hlive hflushes.accounts hrunsOut⟩
  other _ _ _ _ h := h
  deliver item hopen h := by
    refine ⟨h.1, fun hlive => ?_⟩
    obtain ⟨⟨haccounts, hfits, hmarker⟩, hrunsOut⟩ := h.2 hlive
    refine ⟨⟨haccounts.congr rfl rfl, hfits, hmarker⟩, fun hclosed => ?_, hrunsOut.stopped,
      hrunsOut.emptied⟩
    have hended := (hrunsOut.closed hclosed).1
    rw [hopen] at hended
    cases hended
  finish h := by
    refine ⟨h.1, fun hlive => ?_⟩
    obtain ⟨⟨haccounts, hfits, hmarker⟩, hrunsOut⟩ := h.2 hlive
    exact ⟨⟨haccounts.congr rfl rfl, hfits, hmarker⟩,
      fun hclosed => ⟨rfl, (hrunsOut.closed hclosed).2⟩, hrunsOut.stopped, hrunsOut.emptied⟩
  cancel h := ⟨h.1, fun hlive => by cases hlive⟩

theorem Steps.dispatches (hdistinct : (sources.map Source.kind).Nodup) {q : Pipeline σ}
    {seen : List Observation} (h : Steps env (ofSources s sources) seen q) :
    ∀ c ∈ q.consumers, Dispatches sources q.shared.cancelled c (observed c.kind seen) := by
  refine (h.stable (stable_dispatches env sources) (subscribed_ofSources hdistinct) trivial
    ?_ ?_).2
  · intro c hc
    obtain ⟨source, hsource, rfl⟩ := List.mem_map.mp hc
    refine ⟨fun other hother hkind => ?_, fun _ => ⟨?_, Consumer.runsOut_of_start source.lanes⟩⟩
    · rw [List.inj_on_of_nodup_map hdistinct hother hsource hkind]
      exact List.length_replicate
    · have hstart : (Consumer.start source.kind source.lanes).Accounts [] :=
        Consumer.accounts_start source.kind source.lanes rfl rfl rfl
      obtain ⟨haccounts, hfits, -⟩ := Consumer.flushes_start source.kind source.lanes hstart
      exact ⟨haccounts.congr rfl rfl, hfits, nofun⟩
  · exact fun _ _ _ _ hmore => absurd trivial hmore

/-- Dispatching without cancellation, for any `sources` of distinct kinds, any work, and every order
of steps. For each `uid`, and for the notifications without one, those that workers have begun are
the first of those that the watch delivers, in its order; once the consumer is `stopped` all have
been begun and are done, in this order, and until then an action is possible. Each notification that
is done is counted once, under its kind and the outcome of its plan. -/
theorem Steps.handled_once_in_order (hdistinct : (sources.map Source.kind).Nodup) {q : Pipeline σ}
    {seen : List Observation} (h : Steps env (ofSources s sources) seen q)
    (hlive : q.shared.cancelled = false) :
    (∀ source ∈ sources, ∃ c ∈ q.consumers, c.kind = source.kind
      ∧ c.lanes.length = max source.lanes 1
      ∧ (∀ uid, laneFor uid c.lanes.length < c.lanes.length)
      ∧ (∀ uid, ((workBegun (observed source.kind seen)).filter fun n => n.uid? = uid)
          <+: source.work.filter fun n => n.uid? = uid)
      ∧ (c.phase = .stopped →
          (workDone (observed source.kind seen)).Perm source.work
            ∧ ∀ uid, ((workBegun (observed source.kind seen)).filter fun n => n.uid? = uid)
                  = source.work.filter (fun n => n.uid? = uid)
                ∧ ((workDone (observed source.kind seen)).filter fun n => n.uid? = uid)
                  = source.work.filter fun n => n.uid? = uid)
      ∧ (0 < env.buffer → c.phase ≠ .stopped → ∃ a, (c.act env a q.shared).isSome = true))
    ∧ (∀ labels, q.shared.metrics.handled labels
        = s.metrics.handled labels + seen.countP fun x => x.counter? = some labels)
    ∧ ∀ (before after : List Observation) (k : Kind) (n : Notification) (ok : Bool),
        seen = before ++ .ended k n ok :: after →
          ∃ r, Steps env (ofSources s sources) before r
            ∧ ∃ c ∈ r.consumers, c.kind = k
              ∧ ∃ l ∈ c.lanes, ∃ result : Except SyncError Unit,
                  l.worker = .handling n (.done result) ∧ ok = result.isOk
                    ∧ ∃ now, (env.work now k n).Leaves (.done result) := by
  refine ⟨fun source hsource => ?_, fun labels => h.handled labels, ?_⟩
  · obtain ⟨c, hc, hkind, hstream⟩ := h.exists_consumer hdistinct hsource
    obtain ⟨hlength, hkept⟩ := h.dispatches hdistinct c hc
    obtain ⟨hflushes, hrunsOut⟩ := hkept hlive
    have hended := (h.readsFrom hdistinct c hc).1
    have haccounts := hflushes.accounts
    have hlt := haccounts.inOrder.laneFor_lt_length
    have hread : workRead (observed c.kind seen) <+: source.work := by
      rw [hkind]
      unfold workRead Source.work
      rw [← hstream, List.filterMap_append]
      exact List.prefix_append _ _
    rw [← hkind]
    refine ⟨c, hc, rfl, hlength source hsource hkind.symm, hlt, fun uid => ?_,
      fun hphase => ?_, fun hbuffer => Consumer.exists_act hflushes hlive hbuffer hended⟩
    · have hlane := List.getElem?_eq_getElem (hlt uid)
      exact (filter_uid_mono (haccounts.begun_prefix hlane)).trans (hread.filter _)
    -- With nothing left to read, in hand, or in a lane, the accounts are about the whole stream.
    · have hdrained := hrunsOut.isDrained hphase
      have hall : workRead (observed c.kind seen) = source.work := by
        rw [hkind]
        unfold workRead Source.work
        rw [← hstream, hdrained.read, List.append_nil]
      have hdone : ∀ i < c.lanes.length,
          onLane c.lanes.length i (workDone (observed c.kind seen))
            = onLane c.lanes.length i source.work := by
        intro i hi
        rw [← hall]
        exact haccounts.done_of_drained hdrained hi
      refine ⟨perm_of_onLane fun i hi => hdone i ?_, fun uid => ?_⟩
      · have hpos := List.length_pos_iff.mpr haccounts.lanes
        omega
      · have hlane := List.getElem?_eq_getElem (hlt uid)
        have hbegun := haccounts.begun_of_drained hdrained hlane
        exact ⟨filter_uid_of_onLane (hbegun.trans (hdone _ (hlt uid))),
          filter_uid_of_onLane (hdone _ (hlt uid))⟩
  · intro before after k n ok hseen
    obtain ⟨r, a, o, hr, ha, hx⟩ := h.before hseen
    obtain ⟨c, hc, rfl, l, hl, result, hworker, hok⟩ := exists_finishing_of_seen ha hx
    have hfollows := hr.followsPlans followsPlans_ofSources c hc
    exact ⟨r, hr, c, hc, rfl, l, hl, result, hworker, hok, hfollows l hl n _ hworker⟩

/-- A run to which `handled_once_in_order` applies: a failure and two notifications, with one lane
that holds one message. Both are handled, in order, and both are counted. -/
theorem handled_once_in_order_two :
    ∃ (n m : Notification) (seen : List Observation) (q : Pipeline Unit),
      Steps oneLane (ofSources podsAlone [⟨.pod, 0, [.failure, .notify n, .notify m]⟩]) seen q
        ∧ q.shared.cancelled = false ∧ q.consumers.map Consumer.phase = [.stopped]
        ∧ workBegun (observed .pod seen) = [n, m] ∧ (workDone (observed .pod seen)).Perm [n, m]
        ∧ q.shared.metrics.handled ["update", "Pod", "ok"] = 1 := by
  let n : Notification := .update (.unstructured .null)
  let m : Notification := .delete (.unstructured .null)
  have hrun : (replay oneLane
      [.act (.consumer 0 .read), .act (.consumer 0 .read), .act (.consumer 0 .send),
        .act (.consumer 0 .read), .act (.consumer 0 (.lane 0 .take)), .act (.consumer 0 .send),
        .act (.consumer 0 (.lane 0 .finish)), .act (.consumer 0 (.lane 0 .take)),
        .act (.consumer 0 .leave), .act (.consumer 0 (.lane 0 .finish)),
        .act (.consumer 0 (.lane 0 .halt)), .act (.consumer 0 .join)]
      (ofSources podsAlone [⟨.pod, 0, [.failure, .notify n, .notify m]⟩])).map
        (fun r => (r.1, r.2.shared.cancelled, r.2.consumers.map Consumer.phase))
      = some ([.read .pod .failure, .read .pod (.notify n), .read .pod (.notify m), .began .pod n,
          .ended .pod n true, .began .pod m, .ended .pod m true], false, [.stopped]) := by
    with_unfolding_all rfl
  obtain ⟨⟨seen, q⟩, hreplay, heq⟩ := Option.map_eq_some_iff.mp hrun
  obtain ⟨rfl, heq⟩ := Prod.mk.inj heq
  obtain ⟨hlive, hphase⟩ := Prod.mk.inj heq
  have h := steps_of_replay hreplay
  obtain ⟨hsources, hcounters, -⟩ := h.handled_once_in_order (by decide) hlive
  obtain ⟨c, hc, -, -, -, -, hstopped, -⟩ := hsources _ (List.mem_singleton_self _)
  have hcphase : c.phase ∈ q.consumers.map Consumer.phase := List.mem_map_of_mem hc
  rw [show q.consumers.map Consumer.phase = _ from hphase, List.mem_singleton] at hcphase
  exact ⟨n, m, _, q, h, hlive, hphase, rfl, (hstopped hcphase).1,
    (hcounters ["update", "Pod", "ok"]).trans (by decide)⟩

end Pipeline
end ClusterGraph
