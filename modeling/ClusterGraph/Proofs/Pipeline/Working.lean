import ClusterGraph.Proofs.Pipeline.Accounting
import ClusterGraph.Proofs.Store.NodeChange

/-!
# ClusterGraph.Proofs.Pipeline.Working

**A worker is always at what is left of the plan for its notification.**

What is to be done for a notification is settled when a worker takes it up; from then on the
worker makes one call after the other (`Plan.Leaves`). So what a worker reports in the end is what
the plan came to, and every call that reaches the store is one of a plan that the surroundings
gave (`Pipeline.FollowsPlans.calls`). The calls are all that changes the store
(`Pipeline.store_act`).
-/

namespace ClusterGraph

/-! ## What is left of a plan -/

namespace Plan

variable {α : Type}

/-- Plan `rest` is what is left of a plan after some of its calls were answered, with any
answers. -/
inductive Leaves : Plan α → Plan α → Prop where
  | refl (p : Plan α) : Leaves p p
  | answer {c : Call} {next : Except StoreError c.Answer → Plan α} {rest : Plan α}
      (answer : Except StoreError c.Answer) (h : Leaves (next answer) rest) :
      Leaves (call c next) rest

theorem Leaves.next {p : Plan α} {c : Call} {next : Except StoreError c.Answer → Plan α}
    (h : p.Leaves (call c next)) (answer : Except StoreError c.Answer) :
    p.Leaves (next answer) := by
  generalize hrest : call c next = rest at h
  induction h with
  | refl p =>
      subst hrest
      exact .answer answer (.refl _)
  | answer earlier _ ih => exact .answer earlier (ih hrest)

/-- What is left of `p` makes only calls of `p`. -/
theorem Leaves.calls {p rest : Plan α} (h : p.Leaves rest) {c : Call} (hc : rest.Calls c) :
    p.Calls c := by
  induction h with
  | refl => exact hc
  | answer earlier _ ih => exact .later earlier (ih hc)

end Plan

/-! ## The call that an action makes -/

/-- The call that a plan makes next, if it is not `done`. -/
def Plan.call? {α : Type} : Plan α → Option Call
  | .done _ => none
  | .call c _ => some c

theorem Plan.calls_of_call? {α : Type} {p : Plan α} {c : Call} (h : p.call? = some c) :
    p.Calls c := by
  cases p with
  | done => cases h
  | call d next =>
      cases h
      exact .here

/-- The call that a worker makes next: that of the plan it is `handling`. -/
def Worker.call? : Worker → Option Call
  | .handling _ rest => rest.call?
  | _ => none

/-- The call that an action makes. Only the action `call` of a worker makes one. -/
def Consumer.call? (c : Consumer) : ConsumerAction → Option Call
  | .lane i .call => c.lanes[i]?.bind (·.worker.call?)
  | _ => none

/-- The call that an action of the pipeline makes. Those of the start make none. -/
def Pipeline.call? {σ : Type} (p : Pipeline σ) : PipelineAction → Option Call
  | .consumer i a => p.consumers[i]?.bind (·.call? a)
  | .start _ => none

/-- The store after a call was performed, or the same store if there was none. -/
def Environment.after {σ : Type} (env : Environment σ) (s : σ) : Option Call → σ
  | some c => (env.perform c s).2
  | none => s

/-! ## Consumers -/

namespace Consumer

variable {σ : Type} {env : Environment σ}

/-- Each worker of the consumer that is at `n` carries out what is left (`Plan.Leaves`) of
`env.work now c.kind n`, where `now` is some time: when it took `n` up. -/
def FollowsPlans (env : Environment σ) (c : Consumer) : Prop :=
  ∀ l ∈ c.lanes, ∀ n rest, l.worker = .handling n rest →
    ∃ now, (env.work now c.kind n).Leaves rest

theorem FollowsPlans.set {c : Consumer} (h : c.FollowsPlans env) {i : Nat} {l' : Lane}
    (hl' : ∀ n rest, l'.worker = .handling n rest → ∃ now, (env.work now c.kind n).Leaves rest) :
    ∀ l ∈ c.lanes.set i l', ∀ n rest, l.worker = .handling n rest →
      ∃ now, (env.work now c.kind n).Leaves rest := by
  intro l hl
  rcases List.mem_or_eq_of_mem_set hl with hl | rfl
  · exact h l hl
  · exact hl'

theorem followsPlans_of_start {c : Consumer} (h : ∀ l ∈ c.lanes, l = Lane.start) :
    c.FollowsPlans env := by
  intro l hl n rest hworker
  rw [h l hl] at hworker
  cases hworker

section Steps

variable {c : Consumer} {s : Shared σ} {o : ConsumerOutcome σ}

theorem Step.followsPlans (hstep : Step env c s o) (h : c.FollowsPlans env) :
    o.consumer.FollowsPlans env := by
  cases hstep with
  | @send n i l _ _ hlane => exact h.set (h l (List.mem_of_getElem? hlane))
  | @flush i l _ hlane => exact h.set (h l (List.mem_of_getElem? hlane))
  | @take i l n rest hlane =>
      refine h.set fun m left hworker => ?_
      cases hworker
      exact ⟨s.now, .refl _⟩
  | @answer i l rest hlane => exact h.set (h l (List.mem_of_getElem? hlane))
  | @call i l n q next hlane hworker =>
      obtain ⟨now, hleaves⟩ := h l (List.mem_of_getElem? hlane) _ _ hworker
      refine h.set fun m left hm => ?_
      cases hm
      exact ⟨now, hleaves.next _⟩
  | @finish i l => exact h.set fun m left hworker => by cases hworker
  | @halt i l => exact h.set fun m left hworker => by cases hworker
  | _ => exact h

end Steps

/-- Frame lemma of `Consumer.act`: the store changes by the call of the action (`Consumer.call?`)
and by nothing else. -/
theorem store_act {a : ConsumerAction} {c : Consumer} {s : Shared σ} {o : ConsumerOutcome σ}
    (h : c.act env a s = some o) : o.shared.store = env.after s.store (c.call? a) := by
  cases a with
  | lane i a =>
      rw [act] at h
      split at h
      · rename_i l hl
        unfold actLane at h
        split at h
        · split at h <;> cases h <;> rfl
        · rename_i n q next hworker
          cases h
          simp only [call?, hl, Option.bind_some, Worker.call?, hworker, Plan.call?,
            Environment.after]
        · cases h
          rfl
        · split at h <;> cases h
          rfl
        · cases h
      · cases h
  | read =>
      rw [act] at h
      unfold read at h
      split at h <;> cases h
      rfl
  | send =>
      rw [act] at h
      unfold send at h
      split at h
      · split at h
        · obtain ⟨-, h⟩ := Option.ite_none_right_eq_some.mp h
          cases h
          rfl
        · cases h
      · cases h
  | flush =>
      rw [act] at h
      unfold flush at h
      split at h
      · split at h
        · obtain ⟨-, h⟩ := Option.ite_none_right_eq_some.mp h
          cases h
          rfl
        · cases h
          rfl
      · cases h
  | collect =>
      rw [act] at h
      unfold collect at h
      split at h
      · obtain ⟨-, h⟩ := Option.ite_none_right_eq_some.mp h
        cases h
        rfl
      · cases h
  | record =>
      rw [act] at h
      unfold record at h
      split at h
      · split at h <;> cases h <;> rfl
      · cases h
  | signal =>
      rw [act] at h
      unfold signal at h
      split at h <;> cases h
      rfl
  | leave =>
      obtain ⟨-, h⟩ := Option.ite_none_right_eq_some.mp h
      cases h
      rfl
  | join =>
      rw [act] at h
      unfold join at h
      split at h
      · obtain ⟨-, h⟩ := Option.ite_none_right_eq_some.mp h
        cases h
        rfl
      · cases h

end Consumer

/-! ## Runs -/

namespace Pipeline

variable {σ : Type} {env : Environment σ}

/-- Each worker of each consumer carries out what is left of the plan for its notification. -/
def FollowsPlans (env : Environment σ) (p : Pipeline σ) : Prop :=
  ∀ c ∈ p.consumers, c.FollowsPlans env

section Step

variable {a : PipelineAction} {p : Pipeline σ} {o : PipelineOutcome σ}

theorem FollowsPlans.act (hp : p.FollowsPlans env) (h : p.act env a = some o) :
    o.pipeline.FollowsPlans env := by
  rcases act_cases h with hstart | ⟨i, c, co, hc, hstep, rfl⟩
  · cases hstart with
    | @subscribe k rest hstart havailable =>
        intro c hc
        rcases List.mem_append.mp hc with hc | hc
        · exact hp c hc
        · rw [List.mem_singleton.mp hc]
          exact Consumer.followsPlans_of_start fun l hl => List.eq_of_mem_replicate hl
    | _ => exact hp
  · intro d hd
    rcases List.mem_or_eq_of_mem_set hd with hd | rfl
    · exact hp d hd
    · exact hstep.followsPlans (hp c (List.mem_of_getElem? hc))

theorem FollowsPlans.receive (hp : p.FollowsPlans env) (e : PipelineEvent) :
    (p.receive e).FollowsPlans env := by
  have hupdate : ∀ (k : Kind) (f : Consumer → Consumer),
      (∀ c, c.FollowsPlans env → (f c).FollowsPlans env) →
      (p.updateConsumer k f).FollowsPlans env := by
    intro k f hf c hc
    obtain ⟨d, hd, rfl⟩ := List.mem_map.mp hc
    split
    · exact hf d (hp d hd)
    · exact hp d hd
  cases e with
  | deliver k item =>
      refine hupdate k _ fun c hc => ?_
      split <;> exact hc
  | finish k => exact hupdate k _ fun c hc => hc
  | _ => exact hp

/-- The call of an action is one of `env.work now k n`, for some time, kind and notification. -/
theorem FollowsPlans.calls (hp : p.FollowsPlans env) {q : Call} (h : p.call? a = some q) :
    ∃ now k n, (env.work now k n).Calls q := by
  cases a with
  | start a => cases h
  | consumer i a =>
      obtain ⟨c, hc, h⟩ := Option.bind_eq_some_iff.mp h
      unfold Consumer.call? at h
      split at h
      · rename_i j
        obtain ⟨l, hl, h⟩ := Option.bind_eq_some_iff.mp h
        unfold Worker.call? at h
        split at h
        · rename_i n rest hworker
          obtain ⟨now, hleaves⟩ :=
            hp c (List.mem_of_getElem? hc) l (List.mem_of_getElem? hl) n rest hworker
          exact ⟨now, c.kind, n, hleaves.calls (Plan.calls_of_call? h)⟩
        · cases h
      · cases h

/-- Frame lemma of `Pipeline.act`: the store changes by the call of the action (`Pipeline.call?`)
and by nothing else. -/
theorem store_act (h : p.act env a = some o) :
    o.pipeline.shared.store = env.after p.shared.store (p.call? a) := by
  cases a with
  | start a => cases startStep_of_act h <;> rfl
  | consumer i a =>
      obtain ⟨c, hc, h⟩ := Option.bind_eq_some_iff.mp h
      obtain ⟨co, hco, h⟩ := Option.bind_eq_some_iff.mp h
      cases h
      show co.shared.store = env.after p.shared.store (p.consumers[i]?.bind (·.call? a))
      rw [hc, Option.bind_some]
      exact Consumer.store_act hco

end Step

theorem Steps.followsPlans {p q : Pipeline σ} {seen : List Observation} (h : Steps env p seen q)
    (hp : p.FollowsPlans env) : q.FollowsPlans env := by
  induction h with
  | refl => exact hp
  | act _ a ha ih => exact ih.act ha
  | receive _ e ih => exact ih.receive e

end Pipeline
end ClusterGraph
