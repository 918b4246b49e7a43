import ClusterGraph.Proofs.Pipeline.Draining
import ClusterGraph.Proofs.Pipeline.Starting
import Mathlib.Logic.Relation

/-!
# ClusterGraph.Proofs.Pipeline.Waiting

**Whoever waits for the kinds to be in sync goes on only when they are, and is not left asleep
once they are.**

Setting a state takes two steps, to store it and to tell of it, and any number of others may be
between the two (`Among`). The one who waits takes two steps as well, to look and to go to sleep,
and knows how many changes it has been told of. What is stored after it looked is told of after it
looked, so a sleeper that missed something has a change to hear of, or will have one
(`Among.Attentive`).

When the time is up, the pending kinds are read once more, and this time nobody asks whether
there are any. So a timeout may be reported of a start that is in sync.
-/

namespace ClusterGraph

/-! ## What the start can be at next -/

namespace Pipeline

variable {σ : Type} {env : Environment σ}

/-- Inversion of `actStart` for the actions after the subscribing: `Turn p start` lists the ways in
which the start of `p` can go to the phase `start`. -/
inductive Turn (p : Pipeline σ) : StartPhase → Prop where
  /-- The start takes note of the number of changes, and hears of all that follow. -/
  | listen (hstart : p.start = .subscribing []) : Turn p (.looking p.shared.registry.changes)
  | ready {seen : Nat} (hstart : p.start = .looking seen) (hnone : p.shared.registry.pending = []) :
      Turn p (.over (.synced p.consumers.length))
  | sleep {seen : Nat} (hstart : p.start = .looking seen)
      (hsome : p.shared.registry.pending ≠ []) : Turn p (.asleep seen)
  | wake {seen : Nat} (hstart : p.start = .asleep seen) (hnews : seen < p.shared.registry.changes) :
      Turn p (.looking p.shared.registry.changes)
  /-- The start reports the kinds that are pending at this step, whether there are any or not. -/
  | expire {seen : Nat} (hstart : p.start = .asleep seen) (hexpired : p.expired = true) :
      Turn p (.over (.timedOut p.shared.registry.pending))
  | stop {seen : Nat} (hstart : p.start = .asleep seen) (hcancelled : p.shared.cancelled = true) :
      Turn p (.over .cancelled)

/-- An action of the start either is part of the probing and subscribing, or is one of `Turn` and
changes nothing but the phase. -/
theorem turn_of_act {a : StartAction} {p : Pipeline σ} {o : PipelineOutcome σ}
    (h : p.actStart env a = some o) :
    ¬o.pipeline.IsUnderWay ∨ ∃ start, p.Turn start ∧ o = ⟨{ p with start }, []⟩ := by
  cases a with
  | probe =>
      rw [actStart] at h
      unfold probeNext at h
      split at h <;> cases h <;> exact .inl id
  | subscribe =>
      rw [actStart] at h
      unfold subscribeNext at h
      split at h
      · split at h <;> cases h <;> exact .inl id
      · rename_i hstart
        cases h
        exact .inr ⟨_, .listen hstart, rfl⟩
      · cases h
  | look =>
      rw [actStart] at h
      unfold look at h
      split at h
      · rename_i seen hstart
        cases h
        refine .inr ⟨_, ?_, rfl⟩
        split
        · rename_i hnone
          exact .ready hstart (List.isEmpty_iff.mp hnone)
        · rename_i hsome
          exact .sleep hstart fun hnone => hsome (List.isEmpty_iff.mpr hnone)
      · cases h
  | wake =>
      rw [actStart] at h
      unfold wake at h
      split at h
      · rename_i seen hstart
        obtain ⟨hnews, h⟩ := Option.ite_none_right_eq_some.mp h
        cases h
        exact .inr ⟨_, .wake hstart hnews, rfl⟩
      · cases h
  | expire =>
      rw [actStart] at h
      unfold expire at h
      split at h
      · rename_i seen hstart hexpired
        cases h
        exact .inr ⟨_, .expire hstart hexpired, rfl⟩
      · cases h
  | stop =>
      rw [actStart] at h
      unfold stop at h
      split at h
      · rename_i seen hstart hcancelled
        cases h
        exact .inr ⟨_, .stop hstart hcancelled, rfl⟩
      · cases h

/-- The state of the kind `name` is one with its first listing still to come (`isPending`). -/
def Owes (p : Pipeline σ) (name : String) : Prop :=
  ∃ state, p.shared.registry.state? name = some state ∧ state.isPending = true

/-- Along a run that `IsUnderWay`, a kind that owes nothing never owes anything again: the only
state that is still recorded is `synced`. -/
theorem Steps.owes_of_owes {p q : Pipeline σ} {seen : List Observation} (h : Steps env p seen q)
    (hp : p.IsUnderWay) {name : String} (howes : q.Owes name) : p.Owes name := by
  have hsame : ∀ {r t : Pipeline σ}, (t.shared.registry.state? name = r.shared.registry.state? name
      ∨ t.shared.registry.state? name = some .synced) → t.Owes name → r.Owes name := by
    rintro r t (hstate | hstate) ⟨state, hfound, hpending⟩
    · exact ⟨state, hstate ▸ hfound, hpending⟩
    · rw [hstate] at hfound
      cases hfound
      cases hpending
  induction h with
  | refl => exact howes
  | @act r o seen hr a ha ih =>
      refine ih (hsame ?_ howes)
      rcases act_cases ha with hstart | ⟨i, c, co, hc, hstep, rfl⟩
      · have hunderWay := hr.isUnderWay hp
        cases hstart with
        | probe hstart | probed hstart | subscribe hstart | skip hstart =>
            rw [IsUnderWay, hstart] at hunderWay
            cases hunderWay
        | proceed => exact .inl rfl
      · exact hstep.state?_eq name
  | @receive r seen _ e ih =>
      refine ih (hsame (.inl ?_) howes)
      rw [(receive_eq r e).2.2.1]

/-- Justification of `look` and `expire`, which read all states in one step. An instance reads them
one after the other, and other steps may come between: `moment name` is where the run is when the
state of `name` is read, between the beginning of the reading at `p` and its end at `q`. What is
pending at `q` is found so, and what is found so was pending at `p`. So a reading that finds nothing
pending is a `look` at `q`, a reading that finds something is a `look` at `p`, and what a timeout
names was pending when its reading began, and includes all that is pending when it ends. -/
theorem Steps.pending_between {p q : Pipeline σ} (hp : p.IsUnderWay)
    (hordered : p.shared.registry.states.Ordered) (hordered' : q.shared.registry.states.Ordered)
    {moment : String → Pipeline σ} (hfrom : ∀ name, ∃ seen, Steps env p seen (moment name))
    (hto : ∀ name, ∃ seen, Steps env (moment name) seen q) :
    (∀ name ∈ q.shared.registry.pending, (moment name).Owes name)
      ∧ (∀ name, (moment name).Owes name → name ∈ p.shared.registry.pending)
      ∧ ((∀ name, ¬(moment name).Owes name) → q.shared.registry.pending = [])
      ∧ ((∃ name, (moment name).Owes name) → p.shared.registry.pending ≠ []) := by
  have hlater : ∀ name ∈ q.shared.registry.pending, (moment name).Owes name := by
    intro name hname
    obtain ⟨seen, hsteps⟩ := hfrom name
    obtain ⟨seen', hsteps'⟩ := hto name
    exact hsteps'.owes_of_owes (hsteps.isUnderWay hp)
      ((Registry.mem_pending_iff hordered').mp hname)
  have hearlier : ∀ name, (moment name).Owes name → name ∈ p.shared.registry.pending := by
    intro name howes
    obtain ⟨seen, hsteps⟩ := hfrom name
    exact (Registry.mem_pending_iff hordered).mpr (hsteps.owes_of_owes hp howes)
  refine ⟨hlater, hearlier, fun hnone => ?_, fun ⟨name, howes⟩ => ?_⟩
  · exact List.eq_nil_iff_forall_not_mem.mpr fun name hname => hnone name (hlater name hname)
  · exact List.ne_nil_of_mem (hearlier name howes)

/-- If there are more changes than the start has `seen` and no kind is pending, then `wake` is
possible and the `look` after it ends the start with `synced`. -/
theorem exists_wake_look {p : Pipeline σ} {seen : Nat} (hstart : p.start = .asleep seen)
    (hnews : seen < p.shared.registry.changes) (hnone : p.shared.registry.pending = []) :
    ∃ o o', p.actStart env .wake = some o ∧ o.pipeline.actStart env .look = some o'
      ∧ o'.pipeline.start = .over (.synced p.consumers.length) := by
  refine ⟨⟨{ p with start := .looking p.shared.registry.changes }, []⟩,
    ⟨{ p with start := .over (.synced p.consumers.length) }, []⟩, ?_, ?_, rfl⟩
  · simp [actStart, wake, hstart, hnews]
  · simp [actStart, look, hnone]

end Pipeline

/-! ## Steps of consumers -/

/-- How a step of a consumer changes the registry: not at all; or it stores `synced` and the
consumer is `signalling`; or it is the `signal`. Unless it is the `signal`, a consumer that was
`signalling` still is. -/
theorem Consumer.Step.registry_cases {σ : Type} {env : Environment σ} {c : Consumer} {s : Shared σ}
    {o : ConsumerOutcome σ} (h : Step env c s o) :
    (o.shared.registry = s.registry ∧ (c.phase = .signalling → o.consumer.phase = .signalling))
      ∨ (o.consumer.phase = .signalling ∧ o.shared.registry.changes = s.registry.changes
          ∧ o.shared.registry.states = s.registry.states.insert c.kind.name .synced)
      ∨ o.shared.registry = s.registry.signal := by
  cases h with
  | recordFirst hphase hrecord =>
      cases hrecord
      exact .inr (.inl ⟨rfl, rfl, rfl⟩)
  | signal => exact .inr (.inr rfl)
  | readFailure hphase | readMarker hphase | readWork hphase | send hphase | flush hphase
  | await hphase | collect hphase | recordAgain hphase | join hphase =>
      refine .inl ⟨rfl, fun hsignalling => ?_⟩
      rw [hphase] at hsignalling
      cases hsignalling
  | leave hleave =>
      refine .inl ⟨rfl, fun hsignalling => ?_⟩
      simp [mustLeave, hsignalling] at hleave
  | take | answer | call | finish | halt => exact .inl ⟨rfl, id⟩

/-! ## Among others who set states -/

/-- A pipeline among others who set states as well: `untold` is how many of them have stored a state
and not yet notified those who wait. -/
structure Among (σ : Type) where
  pipeline : Pipeline σ
  untold : Nat

namespace Among

variable {σ : Type} {env : Environment σ} {w v : Among σ}

/-- The registry of the pipeline, which all share. -/
abbrev registry (w : Among σ) : Registry :=
  w.pipeline.shared.registry

/-- The pipeline with another registry and other metrics. -/
def update (w : Among σ) (x : Registry × Metrics) : Pipeline σ :=
  { w.pipeline with shared := { w.pipeline.shared with registry := x.1, metrics := x.2 } }

/-- Step of the whole: an action of the pipeline, an event, or one half of setting a state by
someone else. Storing the state and telling of it (`Registry.record`, `Registry.signal`) are two
steps, and anything may come between them. -/
inductive Step (env : Environment σ) (w : Among σ) : Among σ → Prop where
  | act {a : PipelineAction} {o : PipelineOutcome σ} (h : w.pipeline.act env a = some o) :
      Step env w ⟨o.pipeline, w.untold⟩
  | receive (e : PipelineEvent) : Step env w ⟨w.pipeline.receive e, w.untold⟩
  | store {name : String} {state : SubscriptionState} (hnew : w.registry.state? name ≠ some state) :
      Step env w
        ⟨w.update (w.registry.record name state w.pipeline.shared.metrics), w.untold + 1⟩
  /-- Someone sets a state that the kind has already. That is the end of it: nothing is stored, and
  nobody is told. -/
  | keep {name : String} {state : SubscriptionState} (hold : w.registry.state? name = some state) :
      Step env w w
  | tell {n : Nat} (huntold : w.untold = n + 1) :
      Step env w ⟨w.update (w.registry.signal, w.pipeline.shared.metrics), n⟩

/-- Any number of steps, in any order. -/
abbrev Steps (env : Environment σ) : Among σ → Among σ → Prop :=
  Relation.ReflTransGen (Step env)

/-- A run of the pipeline is one of `Among` in which the others do nothing. -/
theorem steps_of_steps {p q : Pipeline σ} {seen : List Observation}
    (h : Pipeline.Steps env p seen q) (n : Nat) : Steps env ⟨p, n⟩ ⟨q, n⟩ := by
  induction h with
  | refl => exact .refl
  | act _ a ha ih => exact ih.tail (.act ha)
  | receive _ e ih => exact ih.tail (.receive e)

/-- Someone is still to tell of a state that is stored: one of the others (`untold`), or a consumer
that is `signalling`. -/
def IsUntold (w : Among σ) : Prop :=
  0 < w.untold ∨ ∃ c ∈ w.pipeline.consumers, c.phase = .signalling

/-- Invariant of waiting. The start has noticed no more changes than there were (`heard`); and if it
is `asleep` while no kind is pending, there is a change that it has not noticed, or one that is
still to be told of (`asleep`). -/
structure Attentive (w : Among σ) : Prop where
  ordered : w.registry.states.Ordered
  heard : ∀ seen, w.pipeline.start = .looking seen ∨ w.pipeline.start = .asleep seen →
    seen ≤ w.registry.changes
  asleep : ∀ seen, w.pipeline.start = .asleep seen → w.registry.pending = [] →
    seen < w.registry.changes ∨ w.IsUntold

/-- Before the start waits there is nothing to keep: a pipeline that is not under way is `Attentive`
if its states are ordered. -/
theorem attentive_of_not_isUnderWay (hordered : w.registry.states.Ordered)
    (hstart : ¬w.pipeline.IsUnderWay) : w.Attentive := by
  refine ⟨hordered, fun seen hwaiting => ?_, fun seen hasleep => ?_⟩
  · rcases hwaiting with h | h <;> exact (hstart (by rw [Pipeline.IsUnderWay, h]; trivial)).elim
  · exact (hstart (by rw [Pipeline.IsUnderWay, hasleep]; trivial)).elim

/-- The invariant is kept if the phase stays the same, and the states stay the same too unless a
change was signalled or is still to be told of. -/
theorem Attentive.advance (h : w.Attentive) (hstart : v.pipeline.start = w.pipeline.start)
    (hordered : v.registry.states.Ordered) (hle : w.registry.changes ≤ v.registry.changes)
    (hnews : w.registry.changes < v.registry.changes ∨ v.IsUntold
      ∨ (v.registry.states = w.registry.states ∧ (w.IsUntold → v.IsUntold))) : v.Attentive := by
  refine ⟨hordered, fun seen hwaiting => ?_, fun seen hasleep hnone => ?_⟩
  · rw [hstart] at hwaiting
    exact Nat.le_trans (h.heard seen hwaiting) hle
  · rw [hstart] at hasleep
    rcases hnews with hlt | huntold | ⟨hstates, huntold⟩
    · exact .inl (Nat.lt_of_le_of_lt (h.heard seen (.inr hasleep)) hlt)
    · exact .inr huntold
    · have hbefore : w.registry.pending = [] := by
        unfold Registry.pending at hnone ⊢
        rwa [hstates] at hnone
      exact (h.asleep seen hasleep hbefore).imp (Nat.lt_of_lt_of_le · hle) huntold

/-- The invariant is kept if the phase and the registry stay the same, and nobody who is still to
tell is lost. -/
theorem Attentive.congr (h : w.Attentive) (hstart : v.pipeline.start = w.pipeline.start)
    (hregistry : v.registry = w.registry) (huntold : w.IsUntold → v.IsUntold) : v.Attentive := by
  refine h.advance hstart ?_ ?_ (.inr (.inr ⟨congrArg Registry.states hregistry, huntold⟩))
  · rw [hregistry]
    exact h.ordered
  · exact Nat.le_of_eq (congrArg Registry.changes hregistry).symm

/-- The invariant is kept by the steps of the start itself: it falls `asleep` only after it found a
kind pending. -/
theorem Attentive.turn (h : w.Attentive) {start : StartPhase} (hturn : w.pipeline.Turn start) :
    (⟨{ w.pipeline with start }, w.untold⟩ : Among σ).Attentive := by
  cases hturn with
  | listen | wake =>
      refine ⟨h.ordered, fun seen hwaiting => ?_, nofun⟩
      rcases hwaiting with heq | heq <;> cases heq
      exact Nat.le_refl _
  | sleep hstart hsome =>
      refine ⟨h.ordered, fun seen hwaiting => ?_, fun _ _ hnone => absurd hnone hsome⟩
      rcases hwaiting with heq | heq <;> cases heq
      exact h.heard _ (.inl hstart)
  | ready | expire | stop =>
      refine ⟨h.ordered, fun seen hwaiting => ?_, nofun⟩
      rcases hwaiting with heq | heq <;> cases heq

theorem Attentive.consumer (h : w.Attentive) {i : Nat} {c : Consumer} {o : ConsumerOutcome σ}
    (hc : w.pipeline.consumers[i]? = some c) (hstep : Consumer.Step env c w.pipeline.shared o) :
    (⟨{ w.pipeline with consumers := w.pipeline.consumers.set i o.consumer, shared := o.shared },
      w.untold⟩ : Among σ).Attentive := by
  have hi := (List.getElem?_eq_some_iff.mp hc).1
  have hset : o.consumer ∈ w.pipeline.consumers.set i o.consumer :=
    List.mem_set hi _
  rcases hstep.registry_cases with ⟨hregistry, hphase⟩ | ⟨hphase, hchanges, hstates⟩ | hregistry
  -- Who was about to tell still is, the consumer that made the step included.
  · refine h.congr rfl hregistry (Or.imp_right fun hgiven => ?_)
    obtain ⟨d, hd, hsignalling⟩ := hgiven
    obtain ⟨j, hj⟩ := List.mem_iff_getElem?.mp hd
    by_cases hij : i = j
    · subst hij
      rw [hc] at hj
      cases hj
      exact ⟨o.consumer, hset, hphase hsignalling⟩
    · refine ⟨d, List.mem_iff_getElem?.mpr ⟨j, ?_⟩, hsignalling⟩
      show (w.pipeline.consumers.set i o.consumer)[j]? = some d
      rw [List.getElem?_set_ne hij, hj]
  · refine h.advance rfl ?_ (Nat.le_of_eq hchanges.symm) (.inr (.inl (.inr ⟨_, hset, hphase⟩)))
    show o.shared.registry.states.Ordered
    rw [hstates]
    exact h.ordered.insert _ _
  · have hlt : w.registry.changes < o.shared.registry.changes := by
      rw [hregistry]
      exact Nat.lt_succ_self _
    refine h.advance rfl ?_ (Nat.le_of_lt hlt) (.inl hlt)
    show o.shared.registry.states.Ordered
    rw [hregistry]
    exact h.ordered

theorem Attentive.act (h : w.Attentive) {a : PipelineAction} {o : PipelineOutcome σ}
    (ha : w.pipeline.act env a = some o) : (⟨o.pipeline, w.untold⟩ : Among σ).Attentive := by
  cases a with
  | start a =>
      rcases Pipeline.turn_of_act ha with hmore | ⟨start, hturn, rfl⟩
      · refine attentive_of_not_isUnderWay ?_ hmore
        cases Pipeline.startStep_of_act ha with
        | probe | subscribe => exact Registry.ordered_setState h.ordered _ _ _
        | _ => exact h.ordered
      · exact h.turn hturn
  | consumer i a =>
      obtain ⟨c, hc, ha⟩ := Option.bind_eq_some_iff.mp ha
      obtain ⟨co, hco, ha⟩ := Option.bind_eq_some_iff.mp ha
      cases ha
      exact h.consumer hc (Consumer.step_of_act hco)

/-- An event changes the phase of no consumer. -/
theorem map_phase_receive (p : Pipeline σ) (e : PipelineEvent) :
    (p.receive e).consumers.map Consumer.phase = p.consumers.map Consumer.phase := by
  have hupdate : ∀ (k : Kind) (f : Consumer → Consumer), (∀ c, (f c).phase = c.phase) →
      (p.updateConsumer k f).consumers.map Consumer.phase = p.consumers.map Consumer.phase := by
    intro k f hf
    unfold Pipeline.updateConsumer
    rw [List.map_map]
    refine List.map_congr_left fun c _ => ?_
    show (if c.kind = k then f c else c).phase = c.phase
    split
    · exact hf c
    · rfl
  cases e with
  | deliver k item =>
      refine hupdate k _ fun c => ?_
      split <;> rfl
  | finish k => exact hupdate k _ fun c => rfl
  | _ => rfl

theorem Attentive.receive (h : w.Attentive) (e : PipelineEvent) :
    (⟨w.pipeline.receive e, w.untold⟩ : Among σ).Attentive := by
  obtain ⟨-, hstart, hregistry, -⟩ := Pipeline.receive_eq w.pipeline e
  refine h.congr hstart hregistry (Or.imp_right fun hgiven => ?_)
  obtain ⟨c, hc, hphase⟩ := hgiven
  have hmem : c.phase ∈ (w.pipeline.receive e).consumers.map Consumer.phase := by
    rw [map_phase_receive]
    exact List.mem_map_of_mem hc
  obtain ⟨d, hd, heq⟩ := List.mem_map.mp hmem
  exact ⟨d, hd, heq.trans hphase⟩

theorem Attentive.step (h : w.Attentive) (hstep : Step env w v) : v.Attentive := by
  cases hstep with
  | act ha => exact h.act ha
  | receive e => exact h.receive e
  | store hnew =>
      exact h.advance rfl (h.ordered.insert _ _) (Nat.le_refl _)
        (.inr (.inl (.inl (Nat.succ_pos _))))
  | keep => exact h
  | tell =>
      exact h.advance rfl h.ordered (Nat.le_succ _) (.inl (Nat.lt_succ_self _))

theorem Steps.attentive (h : Steps env w v) (hw : w.Attentive) : v.Attentive := by
  induction h with
  | refl => exact hw
  | tail _ hstep ih => exact ih.step hstep

/-! ## Being in sync -/

/-- No kind is pending. -/
def IsComplete (w : Among σ) : Prop :=
  ∀ name state, w.registry.state? name = some state → state.isPending = false

/-- Waiting for all kinds to be in sync, among others who set states, from before the start waits.
The start ends with `synced` only in a state that `IsComplete`. If it is `asleep` in such a state,
then either there is a change that it has not noticed, and `wake` and `look` end the start with
`synced`, or someone is still to tell of a state that is stored (`IsUntold`). And
`Registry.setState` stores and tells nothing if the kind has that state already. -/
theorem Steps.hears_of_sync (hordered : w.registry.states.Ordered)
    (hstart : ¬w.pipeline.IsUnderWay) (h : Steps env w v) :
    (∀ a o tasks, v.pipeline.actStart env a = some o →
        o.pipeline.start = .over (.synced tasks) → v.IsComplete)
      ∧ (∀ seen, v.pipeline.start = .asleep seen → v.IsComplete →
          (seen < v.registry.changes
              ∧ ∃ o o', v.pipeline.actStart env .wake = some o
                ∧ o.pipeline.actStart env .look = some o'
                ∧ o'.pipeline.start = .over (.synced v.pipeline.consumers.length))
            ∨ v.IsUntold)
      ∧ ∀ name state m, Registry.setState name state v.registry m
          = if v.registry.state? name = some state then (v.registry, m)
            else
              ((v.registry.record name state m).1.signal, (v.registry.record name state m).2) := by
  have hv := h.attentive (attentive_of_not_isUnderWay hordered hstart)
  refine ⟨fun a o tasks ha hsynced => ?_, fun seen hasleep hcomplete => ?_, fun name state m => ?_⟩
  · refine (Registry.pending_eq_nil_iff hv.ordered).mp ?_
    rcases Pipeline.turn_of_act ha with hmore | ⟨start, hturn, rfl⟩
    · rw [Pipeline.IsUnderWay, hsynced] at hmore
      exact (hmore trivial).elim
    · cases hturn with
      | ready _ hnone => exact hnone
      | _ => cases hsynced
  · have hnone := (Registry.pending_eq_nil_iff hv.ordered).mpr hcomplete
    exact (hv.asleep seen hasleep hnone).imp_left fun hnews =>
      ⟨hnews, Pipeline.exists_wake_look hasleep hnews hnone⟩
  · split
    · rename_i hold
      exact Registry.setState_of_state?_eq hold m
    · rename_i hnew
      exact Registry.setState_of_state?_ne hnew m

/-- A run to which the second alternative of `hears_of_sync` applies: the start is `asleep` while
pods are `syncing`, and another stores that they are `synced`. The state `IsComplete`, there is no
change to notice yet, and the other is still to tell. -/
theorem hears_of_sync_pods :
    ∃ v : Among Unit, Steps Pipeline.oneLane ⟨.begin Pipeline.podsAlone fun _ => .ok (), 0⟩ v
      ∧ v.pipeline.start = .asleep 2 ∧ v.registry.changes = 2 ∧ v.IsComplete ∧ v.IsUntold := by
  have hrun : (Pipeline.replay Pipeline.oneLane
      [.act (.start .probe), .act (.start .probe), .act (.start .subscribe),
        .act (.start .subscribe), .act (.start .look)]
      (.begin Pipeline.podsAlone fun _ => .ok ())).map
        (fun r => (r.2.start, r.2.shared.registry))
      = some (.asleep 2, ⟨[⟨.pod, 0⟩], ⟨[("Pod", .syncing)]⟩, 2⟩) := by
    with_unfolding_all rfl
  obtain ⟨⟨seen, q⟩, hreplay, heq⟩ := Option.map_eq_some_iff.mp hrun
  obtain ⟨hasleep, hregistry⟩ := Prod.mk.inj heq
  have hregistry : q.shared.registry = _ := hregistry
  have hq := steps_of_steps (Pipeline.steps_of_replay hreplay) 0
  have hnew : q.shared.registry.state? "Pod" ≠ some .synced := by
    rw [hregistry]
    decide
  have hv := hq.tail (.store hnew)
  have hcomplete : IsComplete
      ⟨(⟨q, 0⟩ : Among Unit).update
        (q.shared.registry.record "Pod" .synced q.shared.metrics), 1⟩ := by
    refine (Registry.pending_eq_nil_iff ?_).mp ?_
    · show (q.shared.registry.states.insert "Pod" .synced).Ordered
      rw [hregistry]
      exact (Registry.ordered_ofKinds [.pod]).insert "Pod" .syncing |>.insert "Pod" .synced
    · show Registry.pending ⟨_, q.shared.registry.states.insert "Pod" .synced, _⟩ = []
      rw [hregistry]
      rfl
  have hheard := (Steps.hears_of_sync (Registry.ordered_ofKinds [.pod]) id hv).2.1 2 hasleep
    hcomplete
  have hchanges : q.shared.registry.changes = 2 := by rw [hregistry]
  refine ⟨_, hv, hasleep, hchanges, hcomplete, hheard.resolve_left fun hgiven => ?_⟩
  have hnews : 2 < q.shared.registry.changes := hgiven.1
  omega

/-- Timeouts, in the setting of `hears_of_sync`. When the start ends with `timedOut names`, the time
is up, and `names` are the kinds that are pending in that step, in ascending order. The start was
`asleep`; if `names` is empty, there is a change that it has not noticed, or one that is still to be
told of. -/
theorem Steps.timeout_reported (hordered : w.registry.states.Ordered)
    (hstart : ¬w.pipeline.IsUnderWay) (h : Steps env w v) {a : StartAction} {o : PipelineOutcome σ}
    {names : List String} (ha : v.pipeline.actStart env a = some o)
    (hover : o.pipeline.start = .over (.timedOut names)) :
    v.pipeline.expired = true ∧ names.Pairwise (· < ·)
      ∧ (∀ name, name ∈ names ↔
          ∃ state, v.registry.state? name = some state ∧ state.isPending = true)
      ∧ ∃ seen, v.pipeline.start = .asleep seen
          ∧ (names = [] → seen < v.registry.changes ∨ v.IsUntold) := by
  have hv := h.attentive (attentive_of_not_isUnderWay hordered hstart)
  rcases Pipeline.turn_of_act ha with hmore | ⟨start, hturn, rfl⟩
  · rw [Pipeline.IsUnderWay, hover] at hmore
    exact (hmore trivial).elim
  · cases hturn with
    | @expire seen hasleep hexpired =>
        cases hover
        exact ⟨hexpired, Registry.pairwise_pending hv.ordered,
          fun _ => Registry.mem_pending_iff hv.ordered, seen, hasleep, hv.asleep seen hasleep⟩
    | _ => cases hover

/-- A run to which `timeout_reported` applies with no kind to name: the consumer of the pods has
stored `synced` and is `signalling` when the time is up. -/
theorem timeout_reported_untold :
    ∃ (q : Pipeline Unit) (o : PipelineOutcome Unit),
      Steps Pipeline.oneLane ⟨.begin Pipeline.podsAlone fun _ => .ok (), 0⟩ ⟨q, 0⟩
        ∧ q.actStart Pipeline.oneLane .expire = some o
        ∧ o.pipeline.start = .over (.timedOut []) ∧ q.start = .asleep 2
        ∧ (2 < q.shared.registry.changes ∨ (⟨q, 0⟩ : Among Unit).IsUntold) := by
  have hrun : (Pipeline.replay Pipeline.oneLane
      [.act (.start .probe), .act (.start .probe), .act (.start .subscribe),
        .act (.start .subscribe), .act (.start .look),
        .receive (.deliver .pod (.notify .synced)), .act (.consumer 0 .read),
        .act (.consumer 0 .flush), .act (.consumer 0 .flush), .act (.consumer 0 (.lane 0 .take)),
        .act (.consumer 0 .collect), .act (.consumer 0 .record), .receive .deadline]
      (.begin Pipeline.podsAlone fun _ => .ok ())).map
        (fun r =>
          (r.2.start, (r.2.actStart Pipeline.oneLane .expire).map fun o => o.pipeline.start))
      = some (.asleep 2, some (.over (.timedOut []))) := by
    with_unfolding_all rfl
  obtain ⟨⟨seen, q⟩, hreplay, heq⟩ := Option.map_eq_some_iff.mp hrun
  obtain ⟨hasleep, hexpire⟩ := Prod.mk.inj heq
  obtain ⟨o, ho, hover⟩ := Option.map_eq_some_iff.mp hexpire
  have hq := steps_of_steps (Pipeline.steps_of_replay hreplay) 0
  obtain ⟨-, -, -, seen', hseen, hnews⟩ :=
    Steps.timeout_reported (Registry.ordered_ofKinds [.pod]) id hq ho hover
  have hasleep : q.start = .asleep 2 := hasleep
  rw [show q.start = .asleep seen' from hseen] at hasleep
  cases hasleep
  exact ⟨q, o, hq, ho, hover, hseen, hnews rfl⟩

end Among

namespace Pipeline

/-- Counterexample: a timeout that names no kind. The pods become `synced` while the start is
`asleep`, and the time is up before it wakes. -/
theorem not_timeout_reported_pending :
    ¬∀ (seen : List Observation) (q : Pipeline Unit) (names : List String),
      Steps oneLane (begin podsAlone fun _ => .ok ()) seen q →
        q.start = .over (.timedOut names) → names ≠ [] := by
  intro hclaim
  have hrun : (replay oneLane
      [.act (.start .probe), .act (.start .probe), .act (.start .subscribe),
        .act (.start .subscribe), .act (.start .look),
        .receive (.deliver .pod (.notify .synced)), .act (.consumer 0 .read),
        .act (.consumer 0 .flush), .act (.consumer 0 .flush), .act (.consumer 0 (.lane 0 .take)),
        .receive .deadline, .act (.consumer 0 .collect), .act (.consumer 0 .record),
        .act (.consumer 0 .signal), .act (.start .expire)]
      (begin podsAlone fun _ => .ok ())).map (fun r => r.2.start)
      = some (.over (.timedOut [])) := by
    with_unfolding_all rfl
  obtain ⟨⟨seen, q⟩, hreplay, hover⟩ := Option.map_eq_some_iff.mp hrun
  exact hclaim seen q [] (steps_of_replay hreplay) hover rfl

end Pipeline
end ClusterGraph
