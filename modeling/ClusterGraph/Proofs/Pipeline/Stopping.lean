import ClusterGraph.Proofs.Pipeline.Dispatching
import Mathlib.Data.List.Perm.Basic
import Mathlib.Logic.Hydra
import Mathlib.Order.WellFounded

/-!
# ClusterGraph.Proofs.Pipeline.Stopping

**The tasks of a kind never get stuck, and they stop once they are told to.**

Until then, whatever keeps one of them waiting is kept by another that can go on: a full lane by
its worker, a flush by the lanes that have not answered (`Consumer.exists_act_of_hasWork`).

Once the run is cancelled nothing is read or taken up any more. What is left is the way of the
consumer to its end and that of each worker, a call of its plan at a time. A plan is a finite tree,
though nothing bounds its height beforehand, since what comes next hangs on the answers. So what is
left is measured in an order without infinite descent (`Consumer.Sooner`): a number for the
consumer, then the workers, of which one at a time comes closer to its end. The measure looks at
nothing that others could change. And as there are finitely many actions at any time, the runs of
the tasks by themselves are bounded in length (`Consumer.exists_bound_of_cancelled`).
-/

namespace ClusterGraph

/-! ## Workers on their way to the end -/

namespace Worker

/-- Order of workers by what is left for them to do: a call has been answered, the plan has been
finished, or the worker has stopped. -/
inductive Nearer : Worker → Worker → Prop where
  | call {n : Notification} {q : Call}
      {next : Except StoreError q.Answer → Plan (Except SyncError Unit)}
      (answer : Except StoreError q.Answer) :
      Nearer (.handling n (next answer)) (.handling n (.call q next))
  | finish {n : Notification} {result : Except SyncError Unit} :
      Nearer .idle (.handling n (.done result))
  | halt {w : Worker} (hrunning : w.isStopped = false) : Nearer .stopped w

theorem acc_stopped : Acc Nearer stopped := by
  refine ⟨_, fun w h => ?_⟩
  cases h with
  | halt hrunning => cases hrunning

theorem acc_idle : Acc Nearer idle := by
  refine ⟨_, fun w h => ?_⟩
  cases h with
  | halt => exact acc_stopped

/-- A plan comes to its end whatever the answers are: by induction on the plan, a worker that is
`handling` it is accessible. -/
theorem acc_handling (n : Notification) (plan : Plan (Except SyncError Unit)) :
    Acc Nearer (handling n plan) := by
  induction plan with
  | done result =>
      refine ⟨_, fun w h => ?_⟩
      cases h with
      | finish => exact acc_idle
      | halt => exact acc_stopped
  | call q next ih =>
      refine ⟨_, fun w h => ?_⟩
      cases h with
      | call answer => exact ih answer
      | halt => exact acc_stopped

theorem wellFounded_nearer : WellFounded Nearer := by
  refine ⟨fun w => ?_⟩
  cases w with
  | idle => exact acc_idle
  | handling n plan => exact acc_handling n plan
  | stopped => exact acc_stopped

end Worker

/-! ## What is left for a consumer -/

/-- Bound on the steps that a consumer of `lanes` lanes still takes itself after cancellation. -/
def ConsumerPhase.stepsLeft (lanes : Nat) : ConsumerPhase → Nat
  | flushing i => 3 + (lanes - i)
  | recording => 4
  | signalling => 3
  | reading | sending _ _ | awaiting => 2
  | closing => 1
  | stopped => 0

namespace Consumer

variable {σ : Type} {env : Environment σ} {c d : Consumer} {s : Shared σ} {o : ConsumerOutcome σ}

/-- Measure of a consumer: its own steps that are left (`stepsLeft`), and the multiset of its
workers. -/
def remaining (c : Consumer) : Nat × Multiset Worker :=
  (c.phase.stepsLeft c.lanes.length, (c.lanes.map Lane.worker : List Worker))

/-- Order of consumers: `remaining` goes down, in the lexicographic product of the order of numbers
and the one that `Nearer` generates on multisets of workers. It is well-founded. -/
def Sooner (d c : Consumer) : Prop :=
  Prod.Lex (· < ·) (Relation.CutExpand Worker.Nearer) d.remaining c.remaining

theorem wellFounded_sooner : WellFounded Sooner :=
  InvImage.wf remaining (Nat.lt_wfRel.wf.prod_lex Worker.wellFounded_nearer.cutExpand)

theorem Sooner.of_phase (hlength : d.lanes.length = c.lanes.length)
    (h : d.phase.stepsLeft c.lanes.length < c.phase.stepsLeft c.lanes.length) : d.Sooner c := by
  refine Prod.Lex.left _ _ ?_
  rw [hlength]
  exact h

/-- If one worker comes `Nearer` to its end, less is left for the consumer. -/
theorem Sooner.of_worker {i : Nat} {l l' : Lane} (hlane : c.lanes[i]? = some l)
    (h : l'.worker.Nearer l.worker) : (c.setLane i l').Sooner c := by
  obtain ⟨hi, rfl⟩ := List.getElem?_eq_some_iff.mp hlane
  -- The other workers are the same before and after.
  have hset := Multiset.coe_eq_coe.mpr ((List.set_perm_cons_eraseIdx hi l').map Lane.worker)
  have hself := Multiset.coe_eq_coe.mpr ((List.getElem_cons_eraseIdx_perm hi).map Lane.worker)
  rw [List.map_cons, ← Multiset.cons_coe, ← Multiset.singleton_add] at hset hself
  unfold Sooner remaining setLane
  rw [List.length_set, hset, ← hself]
  refine .right _ ⟨{l'.worker}, c.lanes[i].worker, ?_, ?_⟩
  · intro w hw
    rw [Multiset.mem_singleton.mp hw]
    exact h
  · rw [add_right_comm, add_right_comm {c.lanes[i].worker}]
    exact congrArg (· + _) (add_comm _ _)

/-- A consumer that has to `leave` has more than one step left. -/
theorem one_lt_stepsLeft (hleave : c.mustLeave s = true) :
    1 < c.phase.stepsLeft c.lanes.length := by
  unfold mustLeave at hleave
  split at hleave
  · rename_i hphase
    rw [hphase]
    exact Nat.one_lt_two
  · rename_i hphase
    rw [hphase]
    exact Nat.one_lt_two
  · rename_i i hphase
    rw [hphase]
    show 1 < 3 + (c.lanes.length - i)
    omega
  · rename_i hphase
    rw [hphase]
    exact Nat.one_lt_two
  · cases hleave

/-- After cancellation every step is one down in the order `Sooner`. -/
theorem Step.sooner (h : Step env c s o) (hcancelled : s.cancelled = true) :
    o.consumer.Sooner c := by
  have hlive : s.cancelled ≠ false := by simp [hcancelled]
  cases h with
  | readFailure _ h' | readMarker _ h' | readWork _ h' | send _ h' | collect _ h'
  | take _ _ h' | answer _ _ h' => exact absurd h' hlive
  | @flush i l hphase hlane =>
      have hi := (List.getElem?_eq_some_iff.mp hlane).1
      refine .of_phase List.length_set ?_
      rw [hphase]
      show 3 + (c.lanes.length - (i + 1)) < 3 + (c.lanes.length - i)
      omega
  | @await i hphase =>
      refine .of_phase rfl ?_
      rw [hphase]
      show 2 < 3 + (c.lanes.length - i)
      omega
  | recordAgain hphase | recordFirst hphase | signal hphase | join hphase =>
      refine .of_phase rfl ?_
      rw [hphase]
      simp [goTo, ConsumerPhase.stepsLeft]
  | leave hleave => exact .of_phase rfl (one_lt_stepsLeft hleave)
  | call hlane hworker =>
      refine .of_worker hlane ?_
      rw [hworker]
      exact .call _
  | finish _ hlane hworker =>
      refine .of_worker hlane ?_
      rw [hworker]
      exact .finish
  | halt hlane hhalt =>
      rw [mayHalt, Bool.and_eq_true, Bool.not_eq_true'] at hhalt
      exact .of_worker hlane (.halt hhalt.1)

/-! ## Until all have stopped -/

/-- The consumer and all of its workers are `stopped`. -/
def IsDown (c : Consumer) : Prop :=
  c.phase = .stopped ∧ ∀ l ∈ c.lanes, l.worker.isStopped = true

/-- Invariant: when the consumer is `stopped`, so are all of its workers. -/
def StopsLast (c : Consumer) : Prop :=
  c.phase = .stopped → ∀ l ∈ c.lanes, l.worker.isStopped = true

theorem Step.stopsLast (h : Step env c s o) (hc : c.StopsLast) : o.consumer.StopsLast := by
  intro hphase
  cases h with
  | join _ hstopped => exact List.all_eq_true.mp hstopped
  | take hlane hidle | answer hlane hidle =>
      have hstopped := hc hphase _ (List.mem_of_getElem? hlane)
      rw [hidle] at hstopped
      cases hstopped
  | call hlane hworker | finish _ hlane hworker =>
      have hstopped := hc hphase _ (List.mem_of_getElem? hlane)
      rw [hworker] at hstopped
      cases hstopped
  | @halt i l =>
      intro m hm
      rcases List.mem_or_eq_of_mem_set hm with hm | rfl
      · exact hc hphase m hm
      · rfl
  | _ => cases hphase

/-- After cancellation a worker that has not stopped can `halt`. -/
theorem exists_act_of_running (hcancelled : s.cancelled = true) {i : Nat} {l : Lane}
    (hlane : c.lanes[i]? = some l) (hrunning : l.worker.isStopped = false) :
    ∃ a, (c.act env a s).isSome = true := by
  exact exists_act_of_mayHalt hlane (by simp [mayHalt, hrunning, hcancelled])

/-- After cancellation, if the consumer is not `stopped`, then it or one of its workers can do
something: the workers can halt, and a lane that is lost does not keep the consumer waiting. -/
theorem exists_act_of_cancelled (hcancelled : s.cancelled = true) (hphase : c.phase ≠ .stopped) :
    ∃ a, (c.act env a s).isSome = true := by
  cases hp : c.phase with
  | reading | sending _ _ | awaiting =>
      refine ⟨.leave, ?_⟩
      simp [act, leave, mustLeave, hp, hcancelled]
  | flushing i =>
      cases hlane : c.lanes[i]? with
      | none =>
          refine ⟨.flush, ?_⟩
          simp [act, flush, hp, hlane]
      | some l =>
          cases hstopped : l.worker.isStopped with
          | false => exact exists_act_of_running hcancelled hlane hstopped
          | true =>
              refine ⟨.leave, ?_⟩
              simp [act, leave, mustLeave, hp, isLaneStopped, hlane, hstopped]
  | recording => exact exists_act_of_marking (.inl hp)
  | signalling => exact exists_act_of_marking (.inr hp)
  | closing =>
      by_cases hall : c.allStopped = true
      · refine ⟨.join, ?_⟩
        simp [act, join, hp, hall]
      · rw [allStopped, Bool.not_eq_true, List.all_eq_false] at hall
        obtain ⟨l, hl, hrunning⟩ := hall
        obtain ⟨i, hlane⟩ := List.mem_iff_getElem?.mp hl
        exact exists_act_of_running hcancelled hlane (by simpa using hrunning)
  | stopped => exact absurd hp hphase

/-! ## Runs of the tasks of one kind -/

/-- Number of steps of a consumer and its workers, when nothing else happens between them. -/
inductive Strides (env : Environment σ) :
    Nat → Consumer → Shared σ → Consumer → Shared σ → Prop where
  | none (c : Consumer) (s : Shared σ) : Strides env 0 c s c s
  | step {n : Nat} {a : ConsumerAction} {c d : Consumer} {s t : Shared σ} {o : ConsumerOutcome σ}
      (h : c.act env a s = some o) (rest : Strides env n o.consumer o.shared d t) :
      Strides env (n + 1) c s d t

theorem mem_consumerActions {a : ConsumerAction} (h : c.act env a s = some o) :
    a ∈ Pipeline.consumerActions c := by
  unfold Pipeline.consumerActions
  rw [List.mem_append]
  cases a with
  | lane i a =>
      left
      rw [List.mem_flatMap]
      rw [act] at h
      split at h
      · rename_i l hlane
        refine ⟨i, List.mem_range.mpr (List.getElem?_eq_some_iff.mp hlane).1, ?_⟩
        cases a <;> simp
      · cases h
  | _ =>
      right
      simp

/-- After cancellation the consumer and its workers take no more steps by themselves than a number
that their state determines. -/
theorem exists_bound_of_cancelled (env : Environment σ) (c : Consumer) (s : Shared σ)
    (hcancelled : s.cancelled = true) :
    ∃ bound, ∀ n d t, Strides env n c s d t → n ≤ bound := by
  induction c using wellFounded_sooner.induction generalizing s with
  | h c ih =>
    -- Each of the finitely many actions has a bound for what comes after it.
    have hafter : ∀ a, ∃ bound, ∀ o, c.act env a s = some o →
        ∀ n d t, Strides env n o.consumer o.shared d t → n ≤ bound := by
      intro a
      by_cases hsome : ∃ o, c.act env a s = some o
      · obtain ⟨o, ha⟩ := hsome
        have hstep := step_of_act ha
        obtain ⟨bound, hbound⟩ := ih o.consumer (hstep.sooner hcancelled) o.shared
          (hstep.cancelled_eq.trans hcancelled)
        refine ⟨bound, fun o' ho => ?_⟩
        rw [Option.some.inj (ho.symm.trans ha)]
        exact hbound
      · exact ⟨0, fun o ho => absurd ⟨o, ho⟩ hsome⟩
    choose bound hbound using hafter
    refine ⟨((Pipeline.consumerActions c).map bound).sum + 1, fun n d t h => ?_⟩
    cases h with
    | none => exact Nat.zero_le _
    | step ha rest =>
        have hmem := List.mem_map_of_mem (f := bound) (mem_consumerActions ha)
        exact Nat.succ_le_succ ((hbound _ _ ha _ _ _ rest).trans (List.le_sum_of_mem hmem))

theorem Strides.stopsLast {n : Nat} {t : Shared σ} (h : Strides env n c s d t) (hc : c.StopsLast) :
    d.StopsLast := by
  induction h with
  | none => exact hc
  | step ha _ ih => exact ih ((step_of_act ha).stopsLast hc)

theorem Strides.cancelled_eq {n : Nat} {t : Shared σ} (h : Strides env n c s d t) :
    t.cancelled = s.cancelled := by
  induction h with
  | none => rfl
  | step ha _ ih => exact ih.trans (step_of_act ha).cancelled_eq

/-- After cancellation, if no action is possible, the consumer and its workers are down. -/
theorem isDown_of_act_eq_none (hcancelled : s.cancelled = true) (hc : c.StopsLast)
    (hnone : ∀ a, c.act env a s = none) : c.IsDown := by
  by_cases hphase : c.phase = .stopped
  · exact ⟨hphase, hc hphase⟩
  · have hact : ∃ a, (c.act env a s).isSome = true := exists_act_of_cancelled hcancelled hphase
    obtain ⟨a, ha⟩ := hact
    rw [hnone a] at ha
    cases ha

/-- An infinite run of the consumer and its workers after cancellation. Between two of their steps,
everyone else may change what is shared, and the watch may deliver more. -/
def GoesOnForEver (env : Environment σ) (c : Consumer) : Prop :=
  ∃ (f : ℕ → Consumer) (g : ℕ → Shared σ), f 0 = c ∧ ∀ n, (g n).cancelled = true
    ∧ ∃ a o, (f n).act env a (g n) = some o
      ∧ o.consumer.phase = (f (n + 1)).phase ∧ o.consumer.lanes = (f (n + 1)).lanes

theorem not_goesOnForEver (env : Environment σ) (c : Consumer) : ¬c.GoesOnForEver env := by
  intro hforever
  obtain ⟨f, g, -, hsteps⟩ := hforever
  refine (wellFounded_iff_isEmpty_descending_chain.mp wellFounded_sooner).false ⟨f, fun n => ?_⟩
  obtain ⟨hcancelled, a, o, ha, hphase, hlanes⟩ := hsteps n
  have hsooner := (step_of_act ha).sooner hcancelled
  have hsame : (f (n + 1)).remaining = o.consumer.remaining := by
    unfold remaining
    rw [hphase, hlanes]
  unfold Sooner at hsooner ⊢
  rwa [hsame]

end Consumer

namespace Pipeline

variable {σ : Type} {env : Environment σ}

theorem stable_stopsLast (env : Environment σ) :
    Stable env (fun _ => True) fun _ _ c _ => c.StopsLast where
  store _ _ _ := trivial
  own hstep _ h := hstep.stopsLast h
  other _ _ _ _ h := h
  deliver _ _ h := h
  finish h := h
  cancel h := h

theorem Steps.stopsLast {s : Shared σ} {probe : Kind → Except ProbeError Unit} {q : Pipeline σ}
    {seen : List Observation} (h : Steps env (begin s probe) seen q) :
    ∀ c ∈ q.consumers, c.StopsLast := by
  refine (h.stable (stable_stopsLast env) (subscribed_begin s probe) trivial ?_ ?_).2
  · exact fun c hc => absurd hc List.not_mem_nil
  · intro _ _ _ _ _ _ hphase
    cases hphase

/-- The tasks of every kind, for lanes of any size above 0. As long as the run is not cancelled and
the consumer `HasWork`, an action is possible. After cancellation the tasks take no more steps by
themselves than a number that their state determines, nor do they go on for ever if others act
between their steps; and when no action is possible any more, all of them are down. -/
theorem Steps.never_stuck (hbuffer : 0 < env.buffer) {s : Shared σ}
    {probe : Kind → Except ProbeError Unit} {q : Pipeline σ} {seen : List Observation}
    (h : Steps env (begin s probe) seen q) : ∀ c ∈ q.consumers,
      (q.shared.cancelled = false → ¬c.IsDown → c.HasWork →
          ∃ a, (c.act env a q.shared).isSome = true)
        ∧ (q.shared.cancelled = true →
            (∃ bound, ∀ n d t, c.Strides env n q.shared d t → n ≤ bound)
              ∧ (∀ n d t, c.Strides env n q.shared d t → (∀ a, d.act env a t = none) → d.IsDown)
              ∧ ¬c.GoesOnForEver env) := by
  intro c hc
  have hlast := h.stopsLast c hc
  refine ⟨fun hlive hup hwork => ?_, fun hcancelled => ⟨?_, fun n d t hstrides hnone => ?_, ?_⟩⟩
  · obtain ⟨-, hflushes, -⟩ := h.orderly c hc
    exact Consumer.exists_act_of_hasWork (hflushes hlive) hlive hbuffer
      (fun hphase => hup ⟨hphase, hlast hphase⟩) hwork
  · exact Consumer.exists_bound_of_cancelled env c q.shared hcancelled
  · exact Consumer.isDown_of_act_eq_none (hstrides.cancelled_eq.trans hcancelled)
      (hstrides.stopsLast hlast) hnone
  · exact Consumer.not_goesOnForEver env c

/-- A run to which `never_stuck` applies: the marker is read while the lane is full, so the flush
has to wait for room. An action is possible, and if the run is cancelled then, the tasks come to an
end. -/
theorem never_stuck_full :
    ∃ (q : Pipeline Unit) (seen : List Observation) (c : Consumer),
      Steps oneLane (begin podsAlone fun _ => .ok ()) seen q ∧ q.consumers = [c]
        ∧ c.phase = .flushing 0 ∧ c.lanes.map (fun l => l.queue.length) = [oneLane.buffer]
        ∧ (∃ a, (c.act oneLane a q.shared).isSome = true)
        ∧ ∃ bound, ∀ n d t, c.Strides oneLane n (q.receive .cancel).shared d t → n ≤ bound := by
  let n : Notification := .update (.unstructured .null)
  have hrun : (replay oneLane
      [.act (.start .probe), .act (.start .probe), .act (.start .subscribe),
        .receive (.deliver .pod (.notify n)), .receive (.deliver .pod (.notify .synced)),
        .act (.consumer 0 .read), .act (.consumer 0 .send), .act (.consumer 0 .read)]
      (begin podsAlone fun _ => .ok ())).map (fun r => (r.2.shared.cancelled, r.2.consumers))
      = some (false, [⟨.pod, [], false, .flushing 0, [⟨[.handle n], .idle, false⟩]⟩]) := by
    with_unfolding_all rfl
  obtain ⟨⟨seen, q⟩, hreplay, heq⟩ := Option.map_eq_some_iff.mp hrun
  obtain ⟨hlive, hconsumers⟩ := Prod.mk.inj heq
  have hconsumers : q.consumers = [_] := hconsumers
  have h := steps_of_replay hreplay
  have hmem := List.mem_singleton_self
    (⟨.pod, [], false, .flushing 0, [⟨[.handle n], .idle, false⟩]⟩ : Consumer)
  rw [← hconsumers] at hmem
  refine ⟨q, seen, _, h, hconsumers, rfl, rfl, ?_, ?_⟩
  · refine (h.never_stuck Nat.one_pos _ hmem).1 hlive ?_ ?_
    · exact fun hdown => nomatch hdown.1
    · exact .inr (.inr (.inl nofun))
  · exact (((h.receive .cancel).never_stuck Nat.one_pos _ hmem).2 rfl).1

end Pipeline
end ClusterGraph
