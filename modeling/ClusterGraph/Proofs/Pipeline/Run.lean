import ClusterGraph.Pipeline.Run
import ClusterGraph.Proofs.Pipeline.Consumer
import ClusterGraph.Proofs.Subscription.Showing
import Mathlib.Data.List.Nodup

/-!
# ClusterGraph.Proofs.Pipeline.Run

**What all runs keep: an invariant of the store and of each consumer, proved one step at a
time.**

A kind has at most one consumer (`Pipeline.Subscribed`), so what one consumer does is no part
of the trace of another. That is what makes an invariant of a single consumer one of the whole
run: `Pipeline.Stable` asks how a step changes the consumer that makes it, and what it leaves
of the others; `Pipeline.Steps.stable` gives the rest.
-/

namespace ClusterGraph
namespace Pipeline

variable {σ : Type} {env : Environment σ}

/-! ## The start -/

/-- The start has subscribed to all kinds that it will: its phase is `looking`, `asleep` or
`over`. -/
def IsUnderWay (p : Pipeline σ) : Prop :=
  match p.start with
  | .probing _ | .subscribing _ => False
  | _ => True

/-- Invariant of the start: every kind has at most one consumer. -/
structure Subscribed (p : Pipeline σ) : Prop where
  /-- The kinds of the consumers are pairwise distinct. -/
  distinct : (p.consumers.map Consumer.kind).Nodup
  /-- While kinds are being probed there are no consumers. -/
  probing : ∀ rest, p.start = .probing rest → p.consumers = []
  /-- A kind that has a consumer is not `available`, so `subscribeNext` passes it over. -/
  subscribing : ∀ rest, p.start = .subscribing rest → ∀ c ∈ p.consumers,
    p.shared.registry.state? c.kind.name ≠ some .available

theorem subscribed_begin (s : Shared σ) (probe : Kind → Except ProbeError Unit) :
    (begin s probe).Subscribed :=
  ⟨List.nodup_nil, fun _ _ => rfl, fun _ _ _ hc => absurd hc List.not_mem_nil⟩

theorem state?_setState (p : Pipeline σ) (k : Kind) (state : SubscriptionState) (name : String) :
    (p.setState k state).shared.registry.state? name
      = if name = k.name then some state else p.shared.registry.state? name :=
  (Registry.state?_setState k.name state p.shared.registry p.shared.metrics name).trans
    (if_congr eq_comm rfl rfl)

/-- Inversion of `actStart`: the outcomes of an action of the start, with everything they
presuppose. The actions `look`, `wake`, `expire` and `stop` are one case (`proceed`), as they change
nothing but the phase. -/
inductive StartStep (env : Environment σ) (p : Pipeline σ) : PipelineOutcome σ → Prop where
  | probe {k : Kind} {result : Except ProbeError Unit} {rest : List (Kind × Except ProbeError Unit)}
      (hstart : p.start = .probing ((k, result) :: rest)) :
      StartStep env p ⟨{ p.setState k (probedState result) with start := .probing rest }, []⟩
  | probed (hstart : p.start = .probing []) :
      StartStep env p ⟨{ p with start := .subscribing p.shared.registry.kinds }, []⟩
  | subscribe {k : Kind} {rest : List Kind} (hstart : p.start = .subscribing (k :: rest))
      (havailable : p.shared.registry.state? k.name = some .available) :
      StartStep env p
        ⟨{ p.setState k .syncing with
            start := .subscribing rest
            consumers := p.consumers ++ [Consumer.start k env.lanes] },
          [.watched k]⟩
  | skip {k : Kind} {rest : List Kind} (hstart : p.start = .subscribing (k :: rest))
      (hskipped : p.shared.registry.state? k.name ≠ some .available) :
      StartStep env p ⟨{ p with start := .subscribing rest }, []⟩
  /-- The start moves on between the phases of `IsUnderWay`. It comes to `synced` only if no kind is
  pending. -/
  | proceed {start : StartPhase} (hstart : ({ p with start } : Pipeline σ).IsUnderWay)
      (hprobed : ∀ rest, p.start ≠ .probing rest) (hopen : ∀ result, p.start ≠ .over result)
      (hsynced : ∀ tasks, start = .over (.synced tasks) → p.shared.registry.pending = [])
      (htried : ∀ k rest, p.start ≠ .subscribing (k :: rest)) :
      StartStep env p ⟨{ p with start }, []⟩

theorem startStep_of_act {a : StartAction} {p : Pipeline σ} {o : PipelineOutcome σ}
    (h : p.actStart env a = some o) : StartStep env p o := by
  cases a with
  | probe =>
      rw [actStart] at h
      unfold probeNext at h
      split at h
      · rename_i k result rest hstart
        cases h
        exact .probe hstart
      · rename_i hstart
        cases h
        exact .probed hstart
      · cases h
  | subscribe =>
      rw [actStart] at h
      unfold subscribeNext at h
      split at h
      · rename_i k rest hstart
        split at h
        · rename_i havailable
          cases h
          exact .subscribe hstart havailable
        · rename_i hskipped
          cases h
          exact .skip hstart hskipped
      · rename_i hstart
        cases h
        exact .proceed trivial (by simp [hstart]) (by simp [hstart]) nofun (by simp [hstart])
      · cases h
  | look =>
      rw [actStart] at h
      unfold look at h
      split at h
      · rename_i seen hstart
        cases h
        refine .proceed ?_ (by simp [hstart]) (by simp [hstart]) (fun tasks hsynced => ?_)
          (by simp [hstart])
        · split <;> exact trivial
        · split at hsynced
          · rename_i hpending
            exact List.isEmpty_iff.mp hpending
          · cases hsynced
      · cases h
  | wake =>
      rw [actStart] at h
      unfold wake at h
      split at h
      · rename_i seen hstart
        obtain ⟨-, h⟩ := Option.ite_none_right_eq_some.mp h
        cases h
        exact .proceed trivial (by simp [hstart]) (by simp [hstart]) nofun (by simp [hstart])
      · cases h
  | expire =>
      rw [actStart] at h
      unfold expire at h
      split at h
      · rename_i seen hstart hexpired
        cases h
        exact .proceed trivial (by simp [hstart]) (by simp [hstart]) nofun (by simp [hstart])
      · cases h
  | stop =>
      rw [actStart] at h
      unfold stop at h
      split at h
      · rename_i seen hstart hcancelled
        cases h
        exact .proceed trivial (by simp [hstart]) (by simp [hstart]) nofun (by simp [hstart])
      · cases h

/-! ## One step of the pipeline -/

theorem act_cases {a : PipelineAction} {p : Pipeline σ} {o : PipelineOutcome σ}
    (h : p.act env a = some o) :
    StartStep env p o ∨ ∃ (i : Nat) (c : Consumer) (co : ConsumerOutcome σ),
      p.consumers[i]? = some c ∧ Consumer.Step env c p.shared co
        ∧ o = ⟨{ p with consumers := p.consumers.set i co.consumer, shared := co.shared },
            co.seen⟩ := by
  cases a with
  | start a => exact .inl (startStep_of_act h)
  | consumer i a =>
      obtain ⟨c, hc, h⟩ := Option.bind_eq_some_iff.mp h
      obtain ⟨co, hco, h⟩ := Option.bind_eq_some_iff.mp h
      cases h
      exact .inr ⟨i, c, co, hc, Consumer.step_of_act hco, rfl⟩

theorem length_seen_le {a : PipelineAction} {p : Pipeline σ} {o : PipelineOutcome σ}
    (h : p.act env a = some o) : o.seen.length ≤ 1 := by
  rcases act_cases h with hstart | ⟨i, c, co, -, hstep, rfl⟩
  · cases hstart <;> simp
  · exact hstep.length_seen_le

theorem map_kind_set {consumers : List Consumer} {i : Nat} {c d : Consumer}
    (hc : consumers[i]? = some c) (hkind : d.kind = c.kind) :
    (consumers.set i d).map Consumer.kind = consumers.map Consumer.kind := by
  refine List.ext_getElem? fun j => ?_
  rw [List.getElem?_map, List.getElem?_map, List.getElem?_set]
  by_cases hij : i = j
  · subst hij
    obtain ⟨hi, -⟩ := List.getElem?_eq_some_iff.mp hc
    rw [if_pos rfl, if_pos hi, hc, Option.map_some, Option.map_some, hkind]
  · rw [if_neg hij]

/-- After consumer `i` was replaced by `d`, every other consumer is one from before, and of another
kind than consumer `i`, as the kinds are distinct. -/
theorem mem_set_cases {consumers : List Consumer} {i : Nat} {c d e : Consumer}
    (hdistinct : (consumers.map Consumer.kind).Nodup) (hc : consumers[i]? = some c)
    (he : e ∈ consumers.set i d) : e = d ∨ (e ∈ consumers ∧ e.kind ≠ c.kind) := by
  obtain ⟨j, hj⟩ := List.mem_iff_getElem?.mp he
  rw [List.getElem?_set] at hj
  split at hj
  · split at hj
    · exact .inl (Option.some.inj hj).symm
    · cases hj
  · rename_i hij
    refine .inr ⟨List.mem_iff_getElem?.mpr ⟨j, hj⟩, fun hkind => hij ?_⟩
    obtain ⟨hi, rfl⟩ := List.getElem?_eq_some_iff.mp hc
    have hsame : (consumers.map Consumer.kind)[i]? = (consumers.map Consumer.kind)[j]? := by
      rw [List.getElem?_map, List.getElem?_map, hc, hj, Option.map_some, Option.map_some, hkind]
    exact (List.getElem?_inj (by simpa using hi) hdistinct).mp hsame

/-! ## What every run keeps -/

theorem StartStep.subscribed {p : Pipeline σ} {o : PipelineOutcome σ} (h : StartStep env p o)
    (hp : p.Subscribed) : o.pipeline.Subscribed := by
  cases h with
  | @probe k result rest hstart =>
      have hnone : (p.setState k (probedState result)).consumers = [] := hp.probing _ hstart
      exact ⟨hnone ▸ List.nodup_nil, fun _ _ => hnone, nofun⟩
  | probed hstart =>
      have hnone := hp.probing _ hstart
      refine ⟨hp.distinct, nofun, fun _ _ c hc => ?_⟩
      rw [show p.consumers = [] from hnone] at hc
      exact absurd hc List.not_mem_nil
  | @subscribe k rest hstart havailable =>
      have hother : ∀ c ∈ p.consumers, c.kind.name ≠ k.name := by
        intro c hc hname
        have := hp.subscribing _ hstart c hc
        rw [hname] at this
        exact this havailable
      refine ⟨?_, nofun, fun _ _ c hc => ?_⟩
      · show ((p.consumers ++ [Consumer.start k env.lanes]).map Consumer.kind).Nodup
        rw [List.map_append, List.nodup_append]
        refine ⟨hp.distinct, by simp, ?_⟩
        intro a ha b hb
        obtain ⟨c, hc, rfl⟩ := List.mem_map.mp ha
        rw [List.map_singleton, List.mem_singleton] at hb
        intro heq
        subst heq
        exact hother c hc (by rw [hb]; rfl)
      · show (p.setState k .syncing).shared.registry.state? c.kind.name ≠ _
        rw [state?_setState]
        rcases List.mem_append.mp hc with hc | hc
        · rw [if_neg (hother c hc)]
          exact hp.subscribing _ hstart c hc
        · rw [List.mem_singleton.mp hc, Consumer.kind_start, if_pos rfl]
          decide
  | skip hstart => exact ⟨hp.distinct, nofun, fun _ _ => hp.subscribing _ hstart⟩
  | proceed hstart =>
      refine ⟨hp.distinct, fun rest h => ?_, fun rest h => ?_⟩
      · rw [IsUnderWay, h] at hstart
        cases hstart
      · rw [IsUnderWay, h] at hstart
        cases hstart

theorem Subscribed.act {p : Pipeline σ} (hp : p.Subscribed) {a : PipelineAction}
    {o : PipelineOutcome σ} (h : p.act env a = some o) : o.pipeline.Subscribed := by
  rcases act_cases h with hstart | ⟨i, c, co, hc, hstep, rfl⟩
  · exact hstart.subscribed hp
  · have hkinds := map_kind_set hc hstep.kind_eq
    refine ⟨?_, ?_, ?_⟩
    · show ((p.consumers.set i co.consumer).map Consumer.kind).Nodup
      rw [hkinds]
      exact hp.distinct
    · intro rest hrest
      rw [hp.probing rest hrest] at hc
      cases hc
    · intro rest hrest d hd
      have hmem : d.kind ∈ p.consumers.map Consumer.kind := by
        rw [← hkinds]
        exact List.mem_map_of_mem hd
      obtain ⟨e, he, hkind⟩ := List.mem_map.mp hmem
      rcases hstep.state?_eq d.kind.name with hstate | hstate
      · show co.shared.registry.state? _ ≠ _
        rw [hstate, ← hkind]
        exact hp.subscribing rest hrest e he
      · show co.shared.registry.state? _ ≠ _
        rw [hstate]
        decide

/-- What `receive` never changes: the kinds of the consumers, the phase of the start, the registry
and the store. -/
theorem receive_eq (p : Pipeline σ) (e : PipelineEvent) :
    (p.receive e).consumers.map Consumer.kind = p.consumers.map Consumer.kind
      ∧ (p.receive e).start = p.start
      ∧ (p.receive e).shared.registry = p.shared.registry
      ∧ (p.receive e).shared.store = p.shared.store := by
  have hupdate : ∀ (k : Kind) (f : Consumer → Consumer), (∀ c, (f c).kind = c.kind) →
      (p.updateConsumer k f).consumers.map Consumer.kind = p.consumers.map Consumer.kind := by
    intro k f hf
    unfold updateConsumer
    rw [List.map_map]
    refine List.map_congr_left fun c _ => ?_
    show (if c.kind = k then f c else c).kind = c.kind
    split
    · exact hf c
    · rfl
  cases e with
  | deliver k item =>
      refine ⟨hupdate k _ fun c => ?_, rfl, rfl, rfl⟩
      split <;> rfl
  | finish k => exact ⟨hupdate k _ fun c => rfl, rfl, rfl, rfl⟩
  | _ => exact ⟨rfl, rfl, rfl, rfl⟩

theorem Subscribed.receive {p : Pipeline σ} (hp : p.Subscribed) (e : PipelineEvent) :
    (p.receive e).Subscribed := by
  obtain ⟨hkinds, hstart, hregistry, -⟩ := receive_eq p e
  refine ⟨hkinds ▸ hp.distinct, ?_, ?_⟩
  · intro rest hrest
    rw [hstart] at hrest
    have := hp.probing rest hrest
    rw [this] at hkinds
    exact List.map_eq_nil_iff.mp hkinds
  · intro rest hrest c hc
    rw [hstart] at hrest
    have hmem : c.kind ∈ p.consumers.map Consumer.kind := hkinds ▸ List.mem_map_of_mem hc
    obtain ⟨d, hd, hkind⟩ := List.mem_map.mp hmem
    rw [hregistry, ← hkind]
    exact hp.subscribing rest hrest d hd

/-- The invariant `Subscribed` holds along every run. -/
theorem Steps.subscribed {p q : Pipeline σ} {seen : List Observation} (h : Steps env p seen q)
    (hp : p.Subscribed) : q.Subscribed := by
  induction h with
  | refl => exact hp
  | act _ a ha ih => exact ih.act ha
  | receive _ e ih => exact ih.receive e

/-- Consumers are only ever added, at the end. -/
theorem Steps.kinds_prefix {p q : Pipeline σ} {seen : List Observation}
    (h : Steps env p seen q) :
    p.consumers.map Consumer.kind <+: q.consumers.map Consumer.kind := by
  induction h with
  | refl => exact List.prefix_rfl
  | act _ a ha ih =>
      refine ih.trans ?_
      rcases act_cases ha with hstart | ⟨i, c, co, hc, hstep, rfl⟩
      · cases hstart with
        | subscribe =>
            rw [List.map_append]
            exact List.prefix_append _ _
        | _ => exact List.prefix_rfl
      · exact ⟨[], (List.append_nil _).trans (map_kind_set hc hstep.kind_eq).symm⟩
  | receive _ e ih => rwa [(receive_eq _ e).1]

/-- The property `IsUnderWay` is kept along every run. -/
theorem Steps.isUnderWay {p q : Pipeline σ} {seen : List Observation} (h : Steps env p seen q)
    (hp : p.IsUnderWay) : q.IsUnderWay := by
  induction h with
  | refl => exact hp
  | act _ a ha ih =>
      rcases act_cases ha with hstart | ⟨i, c, co, hc, hstep, rfl⟩
      -- Only the step that ends the start leads here, and none leads away.
      · cases hstart with
        | probe hstart | probed hstart | subscribe hstart | skip hstart =>
            rw [IsUnderWay, hstart] at ih
            cases ih
        | proceed hstart => exact hstart
      · exact ih
  | receive _ e ih =>
      rw [IsUnderWay, (receive_eq _ e).2.1]
      exact ih

/-- Every observation is about a kind that has a consumer. -/
theorem Steps.kind_of_mem_seen {p q : Pipeline σ} {seen : List Observation}
    (h : Steps env p seen q) : ∀ x ∈ seen, x.kind ∈ q.consumers.map Consumer.kind := by
  induction h with
  | refl => exact fun x hx => absurd hx List.not_mem_nil
  | act _ a ha ih =>
      intro x hx
      rcases act_cases ha with hstart | ⟨i, c, co, hc, hstep, rfl⟩
      · cases hstart with
        | subscribe =>
            rw [List.map_append, List.mem_append]
            rcases List.mem_append.mp hx with hx | hx
            · exact .inl (ih x hx)
            · rw [List.mem_singleton.mp hx]
              exact .inr (by simp [Observation.kind])
        | _ =>
            rw [List.append_nil] at hx
            exact ih x hx
      · rw [map_kind_set hc hstep.kind_eq]
        rcases List.mem_append.mp hx with hx | hx
        · exact ih x hx
        · rw [hstep.kind_of_mem_seen x hx]
          exact List.mem_map_of_mem (List.mem_of_getElem? hc)
  | receive _ e ih =>
      intro x hx
      rw [(receive_eq _ e).1]
      exact ih x hx

/-- A run that has shown `x` came to a state `r` of which the next step shows just `x`, and before
it had shown just `first`. -/
theorem Steps.before {p q : Pipeline σ} {seen : List Observation} (h : Steps env p seen q)
    {first rest : List Observation} {x : Observation} (hseen : seen = first ++ x :: rest) :
    ∃ (r : Pipeline σ) (a : PipelineAction) (o : PipelineOutcome σ),
      Steps env p first r ∧ r.act env a = some o ∧ o.seen = [x] := by
  induction h generalizing rest with
  | refl => simp at hseen
  | @act r o seen h a ha ih =>
      -- A step shows one thing at most, so either it shows `x` or `x` was seen before it.
      have hlength := length_seen_le ha
      match hnew : o.seen with
      | [] =>
          rw [hnew, List.append_nil] at hseen
          exact ih hseen
      | [y] =>
          rw [hnew] at hseen
          rcases List.eq_nil_or_concat rest with rfl | ⟨rest, z, rfl⟩
          · obtain ⟨rfl, heq⟩ := List.append_inj' hseen rfl
            cases heq
            exact ⟨r, a, o, h, ha, hnew⟩
          · rw [List.concat_eq_append, ← List.cons_append, ← List.append_assoc] at hseen
            exact ih (List.append_inj' hseen rfl).1
      | _ :: _ :: _ =>
          rw [hnew] at hlength
          simp at hlength
  | receive _ e ih => exact ih hseen

/-! ## Scripts -/

/-- One step of a run: an action, or an event from outside. -/
inductive Move where
  | act (a : PipelineAction)
  | receive (e : PipelineEvent)

/-- Carry out `moves`, and collect what is seen. The result is `none` if one of the actions is not
possible. As it computes, runs can be exhibited by evaluation. -/
def replay (env : Environment σ) : List Move → Pipeline σ → Option (List Observation × Pipeline σ)
  | [], p => some ([], p)
  | .act a :: rest, p =>
      (p.act env a).bind fun o =>
        (replay env rest o.pipeline).map fun (seen, q) => (o.seen ++ seen, q)
  | .receive e :: rest, p => replay env rest (p.receive e)

theorem steps_of_replay {moves : List Move} {p q : Pipeline σ} {seen : List Observation}
    (h : replay env moves p = some (seen, q)) : Steps env p seen q := by
  induction moves generalizing p seen with
  | nil =>
      cases h
      exact .refl _
  | cons move rest ih =>
      cases move with
      | act a =>
          obtain ⟨o, ha, h⟩ := Option.bind_eq_some_iff.mp h
          obtain ⟨⟨more, r⟩, hrest, heq⟩ := Option.map_eq_some_iff.mp h
          obtain ⟨rfl, rfl⟩ := Prod.mk.inj heq
          exact ((Steps.refl p).act a ha).trans (ih hrest)
      | receive e => exact ((Steps.refl p).receive e).trans (ih h)

/-- If `replay` succeeds, its moves are a run that shows `seen`. -/
theorem exists_steps_of_replay {moves : List Move} {p : Pipeline σ} {seen : List Observation}
    (h : (replay env moves p).map Prod.fst = some seen) : ∃ q, Steps env p seen q := by
  obtain ⟨⟨_, q⟩, hreplay, rfl⟩ := Option.map_eq_some_iff.mp h
  exact ⟨q, steps_of_replay hreplay⟩

/-! ## Invariants of consumers -/

/-- Something that holds of the store (`G`) and of each consumer and its trace (`P`, given the
store and whether the run is cancelled), and goes on holding whatever is done. -/
structure Stable (env : Environment σ) (G : σ → Prop)
    (P : σ → Bool → Consumer → List Observation → Prop) : Prop where
  /-- A step of a consumer keeps `G`, given `P` of this consumer. -/
  store : ∀ {c : Consumer} {s : Shared σ} {o : ConsumerOutcome σ} {own : List Observation},
    Consumer.Step env c s o → G s.store → P s.store s.cancelled c own → G o.shared.store
  /-- A step of a consumer keeps `P` of this consumer, whose trace grows by what is seen. -/
  own : ∀ {c : Consumer} {s : Shared σ} {o : ConsumerOutcome σ} {own : List Observation},
    Consumer.Step env c s o → G s.store → P s.store s.cancelled c own →
      P o.shared.store s.cancelled o.consumer (own ++ o.seen)
  /-- A step of a consumer keeps `P` of every consumer of another kind, whose trace stays the
  same. -/
  other : ∀ {c d : Consumer} {s : Shared σ} {o : ConsumerOutcome σ} {own theirs : List Observation},
    Consumer.Step env c s o → G s.store → P s.store s.cancelled c own → d.kind ≠ c.kind →
      P s.store s.cancelled d theirs → P o.shared.store s.cancelled d theirs
  deliver : ∀ {s : σ} {cancelled : Bool} {c : Consumer} {own : List Observation}
    (item : StreamItem), c.ended = false → P s cancelled c own →
      P s cancelled { c with arrived := c.arrived ++ [item] } own
  finish : ∀ {s : σ} {cancelled : Bool} {c : Consumer} {own : List Observation},
    P s cancelled c own → P s cancelled { c with ended := true } own
  cancel : ∀ {s : σ} {cancelled : Bool} {c : Consumer} {own : List Observation},
    P s cancelled c own → P s true c own

section Stable

variable {G : σ → Prop} {P : σ → Bool → Consumer → List Observation → Prop}

/-- A step of the start keeps `P` of all consumers, if `P` holds of a new consumer
(`Consumer.start`), whose trace is the `watched` observation alone. -/
theorem StartStep.forall_consumer {p : Pipeline σ} {o : PipelineOutcome σ}
    {seen : List Observation} (h : StartStep env p o) (hsub : p.Subscribed)
    (hseen : ∀ x ∈ seen, x.kind ∈ p.consumers.map Consumer.kind)
    (hnew : ∀ k, ¬p.IsUnderWay → k ∉ p.consumers.map Consumer.kind →
      P p.shared.store p.shared.cancelled (Consumer.start k env.lanes) [.watched k])
    (hall : ∀ c ∈ p.consumers, P p.shared.store p.shared.cancelled c (observed c.kind seen)) :
    ∀ c ∈ o.pipeline.consumers, P o.pipeline.shared.store o.pipeline.shared.cancelled c
      (observed c.kind (seen ++ o.seen)) := by
  cases h with
  | @subscribe k rest hstart havailable =>
      have hfresh : ∀ c ∈ p.consumers, c.kind ≠ k := by
        intro c hc heq
        subst heq
        exact hsub.subscribing _ hstart c hc havailable
      intro c hc
      rw [observed_append]
      rcases List.mem_append.mp hc with hc | hc
      · have hnil : observed c.kind [.watched k] = [] := by
          refine observed_eq_nil fun x hx => ?_
          rw [List.mem_singleton.mp hx]
          exact Ne.symm (hfresh c hc)
        rw [hnil, List.append_nil]
        exact hall c hc
      · have hnil : observed k seen = [] := by
          refine observed_eq_nil fun x hx hkind => ?_
          obtain ⟨d, hd, hdk⟩ := List.mem_map.mp (hseen x hx)
          exact hfresh d hd (hdk.trans hkind)
        have hself : observed k [.watched k] = [.watched k] := by
          refine observed_eq_self fun x hx => ?_
          rw [List.mem_singleton.mp hx]
          rfl
        rw [List.mem_singleton.mp hc, Consumer.kind_start, hnil, hself, List.nil_append]
        refine hnew k ?_ ?_
        · rw [IsUnderWay, hstart]
          exact id
        · intro hmem
          obtain ⟨d, hd, hkind⟩ := List.mem_map.mp hmem
          exact hfresh d hd hkind
  | _ =>
      rw [List.append_nil]
      exact hall

/-- A step of consumer `i` keeps `P` of all consumers. What is seen is about the kind of consumer
`i`, so it is part of no other trace. -/
theorem Stable.forall_consumer (hP : Stable env G P) {p : Pipeline σ} {seen : List Observation}
    (hsub : p.Subscribed) (hG : G p.shared.store)
    (hall : ∀ c ∈ p.consumers, P p.shared.store p.shared.cancelled c (observed c.kind seen))
    {i : Nat} {c : Consumer} {o : ConsumerOutcome σ} (hc : p.consumers[i]? = some c)
    (hstep : Consumer.Step env c p.shared o) :
    ∀ d ∈ p.consumers.set i o.consumer,
      P o.shared.store o.shared.cancelled d (observed d.kind (seen ++ o.seen)) := by
  intro d hd
  have hown := hall c (List.mem_of_getElem? hc)
  rw [observed_append, hstep.cancelled_eq]
  rcases mem_set_cases hsub.distinct hc hd with rfl | ⟨hd, hkind⟩
  · rw [hstep.kind_eq, observed_eq_self hstep.kind_of_mem_seen]
    exact hP.own hstep hG hown
  · have hnil : observed d.kind o.seen = [] := by
      refine observed_eq_nil fun x hx => ?_
      rw [hstep.kind_of_mem_seen x hx]
      exact Ne.symm hkind
    rw [hnil, List.append_nil]
    exact hP.other hstep hG hown hkind (hall d hd)

/-- An event from outside keeps `P` of all consumers. -/
theorem Stable.receive (hP : Stable env G P) {p : Pipeline σ} {seen : List Observation}
    (hall : ∀ c ∈ p.consumers, P p.shared.store p.shared.cancelled c (observed c.kind seen))
    (e : PipelineEvent) :
    ∀ c ∈ (p.receive e).consumers,
      P (p.receive e).shared.store (p.receive e).shared.cancelled c (observed c.kind seen) := by
  cases e with
  | deliver k item =>
      intro c hc
      obtain ⟨d, hd, rfl⟩ := List.mem_map.mp hc
      by_cases hkind : d.kind = k
      · rw [if_pos hkind]
        show P _ _ (if d.ended = true then d else { d with arrived := d.arrived ++ [item] })
          (observed (if d.ended = true then d
            else { d with arrived := d.arrived ++ [item] }).kind seen)
        split
        · exact hall d hd
        · rename_i hended
          exact hP.deliver item (by simpa using hended) (hall d hd)
      · rw [if_neg hkind]
        exact hall d hd
  | finish k =>
      intro c hc
      obtain ⟨d, hd, rfl⟩ := List.mem_map.mp hc
      by_cases hkind : d.kind = k
      · rw [if_pos hkind]
        exact hP.finish (hall d hd)
      · rw [if_neg hkind]
        exact hall d hd
  | cancel => exact fun c hc => hP.cancel (hall c hc)
  | deadline => exact hall
  | clock now => exact hall

/-- Induction over runs: what is `Stable` holds at the end of a run if it holds at its beginning and
of each new consumer. It is said of the store by `G`, and by `P` of each consumer with its own trace
(`observed c.kind seen`). -/
theorem Steps.stable (hP : Stable env G P) {p q : Pipeline σ} {seen : List Observation}
    (h : Steps env p seen q) (hsub : p.Subscribed) (hG : G p.shared.store)
    (hall : ∀ c ∈ p.consumers, P p.shared.store p.shared.cancelled c [])
    (hnew : ∀ s cancelled k, G s → ¬p.IsUnderWay → k ∉ p.consumers.map Consumer.kind →
      P s cancelled (Consumer.start k env.lanes) [.watched k]) :
    G q.shared.store ∧ ∀ c ∈ q.consumers,
      P q.shared.store q.shared.cancelled c (observed c.kind seen) := by
  -- A consumer that comes later is of a kind that had none, so its trace begins where it does.
  induction h with
  | refl => exact ⟨hG, hall⟩
  | @act r o seen h a ha ih =>
      obtain ⟨hGr, hallr⟩ := ih
      have hsubr := h.subscribed hsub
      rcases act_cases ha with hstart | ⟨i, c, co, hc, hstep, rfl⟩
      · have hstore : o.pipeline.shared.store = r.shared.store := by
          cases hstart <;> rfl
        refine ⟨hstore ▸ hGr, hstart.forall_consumer hsubr h.kind_of_mem_seen ?_ hallr⟩
        intro k hmore hk
        exact hnew _ _ k hGr (fun hp => hmore (h.isUnderWay hp))
          fun hmem => hk (h.kinds_prefix.subset hmem)
      · exact ⟨hP.store hstep hGr (hallr c (List.mem_of_getElem? hc)),
          hP.forall_consumer hsubr hGr hallr hc hstep⟩
  | receive _ e ih =>
      refine ⟨?_, hP.receive ih.2 e⟩
      rw [(receive_eq _ e).2.2.2]
      exact ih.1

end Stable

end Pipeline
end ClusterGraph
