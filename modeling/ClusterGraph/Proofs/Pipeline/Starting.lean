import ClusterGraph.Proofs.Pipeline.Run
import ClusterGraph.Proofs.Resource.Identity

/-!
# ClusterGraph.Proofs.Pipeline.Starting

**The barrier of the start: whoever waits for it goes on only when every kind has recorded that
it is in sync, or was skipped because its probe said that it is out of reach.**

While kinds are probed, each is either still to come or has a state that its probe called for;
later steps move kinds forward only (`Pipeline.Starting`). The start is over as synced when no
kind is pending, and of the states that a probed kind can have then, one is left.
-/

namespace ClusterGraph

/-! ## What the registry says of a kind -/

namespace Registry

variable {r r' : Registry} {probe : Kind → Except ProbeError Unit} {k : Kind}

/-- The state of `k` is `skipped`, and that is the `probedState` of its probe. -/
def Skips (r : Registry) (probe : Kind → Except ProbeError Unit) (k : Kind) : Prop :=
  r.state? k.name = some .skipped ∧ probedState (probe k) = .skipped

/-- The result for `k` has been recorded: its state `isActive`, or `r` skips it. -/
def HasProbed (r : Registry) (probe : Kind → Except ProbeError Unit) (k : Kind) : Prop :=
  (∃ state, r.state? k.name = some state ∧ state.isActive = true) ∨ r.Skips probe k

/-- The state of `k` is `synced`, or `r` skips it. -/
def HasSynced (r : Registry) (probe : Kind → Except ProbeError Unit) (k : Kind) : Prop :=
  r.state? k.name = some .synced ∨ r.Skips probe k

theorem HasProbed.congr (h : r.HasProbed probe k) (hstate : r'.state? k.name = r.state? k.name) :
    r'.HasProbed probe k := by
  unfold HasProbed Skips
  rw [hstate]
  exact h

/-- A kind that has been probed stays so if its state stays the same or becomes `synced`. No other
state is recorded later. -/
theorem HasProbed.advance (h : r.HasProbed probe k)
    (hstate : r'.state? k.name = r.state? k.name ∨ r'.state? k.name = some .synced) :
    r'.HasProbed probe k := by
  rcases hstate with hstate | hstate
  · exact h.congr hstate
  · exact .inl ⟨.synced, hstate, rfl⟩

theorem HasSynced.advance (h : r.HasSynced probe k)
    (hstate : r'.state? k.name = r.state? k.name ∨ r'.state? k.name = some .synced) :
    r'.HasSynced probe k := by
  rcases hstate with hstate | hstate
  · unfold HasSynced Skips
    rw [hstate]
    exact h
  · exact .inl hstate

theorem hasProbed_of_probedState (h : r.state? k.name = some (probedState (probe k))) :
    r.HasProbed probe k := by
  cases hstate : probedState (probe k) with
  | skipped => exact .inr ⟨hstate ▸ h, hstate⟩
  | available => exact .inl ⟨_, h, by rw [hstate]; rfl⟩
  | _ =>
      unfold probedState at hstate
      split at hstate
      · cases hstate
      · split at hstate <;> cases hstate

theorem isPending_eq_false (hpending : r.pending = []) {name : String} {state : SubscriptionState}
    (hstate : r.state? name = some state) : state.isPending = false := by
  obtain ⟨entry, hentry, rfl⟩ := Option.map_eq_some_iff.mp hstate
  have hnone := List.filter_eq_nil_iff.mp (List.map_eq_nil_iff.mp hpending) entry
    (List.mem_of_find?_eq_some hentry)
  simpa using hnone

/-- If no kind is pending, a kind that has been probed is `synced` or skipped. -/
theorem HasProbed.hasSynced (h : r.HasProbed probe k) (hpending : r.pending = []) :
    r.HasSynced probe k := by
  rcases h with ⟨state, hstate, hactive⟩ | hskips
  · have hdone := isPending_eq_false hpending hstate
    cases state with
    | synced => exact .inl hstate
    | unchecked | skipped => cases hactive
    | available | syncing => cases hdone
  · exact .inr hskips

end Registry

/-! ## Steps -/

theorem Consumer.Step.handlers_eq {σ : Type} {env : Environment σ} {c : Consumer} {s : Shared σ}
    {o : ConsumerOutcome σ} (h : Step env c s o) :
    o.shared.registry.handlers = s.registry.handlers := by
  cases h with
  | recordFirst hphase hrecord =>
      cases hrecord
      rfl
  | _ => rfl

namespace Pipeline

variable {σ : Type} {env : Environment σ} {kinds : List Kind}
  {probe : Kind → Except ProbeError Unit}

theorem handlers_setState (p : Pipeline σ) (k : Kind) (state : SubscriptionState) :
    (p.setState k state).shared.registry.handlers = p.shared.registry.handlers :=
  Registry.handlers_setState k.name state p.shared.registry p.shared.metrics

theorem kinds_setState (p : Pipeline σ) (k : Kind) (state : SubscriptionState) :
    (p.setState k state).shared.registry.kinds = p.shared.registry.kinds :=
  congrArg (List.map Handler.kind) (handlers_setState p k state)

/-- Invariant of the start: how far it has come with `kinds`, given the results `probe` of their
probes. -/
structure Starting (kinds : List Kind) (probe : Kind → Except ProbeError Unit)
    (p : Pipeline σ) : Prop where
  kinds_eq : p.shared.registry.kinds = kinds
  /-- While kinds are probed, each kind of the registry has been probed or is among those left, with
  its own result. -/
  probing : ∀ rest, p.start = .probing rest → (∀ x ∈ rest, x.2 = probe x.1)
    ∧ ∀ k ∈ kinds, k ∈ rest.map Prod.fst ∨ p.shared.registry.HasProbed probe k
  /-- After that, each kind has been probed. -/
  probed : (∀ rest, p.start ≠ .probing rest) →
    ∀ k ∈ kinds, p.shared.registry.HasProbed probe k
  /-- If the start ended with `synced`, each kind is `synced` or skipped. -/
  synced : ∀ tasks, p.start = .over (.synced tasks) →
    ∀ k ∈ kinds, p.shared.registry.HasSynced probe k

theorem starting_begin (s : Shared σ) (probe : Kind → Except ProbeError Unit) :
    (begin s probe).Starting s.registry.kinds probe where
  kinds_eq := rfl
  probing rest hrest := by
    cases hrest
    refine ⟨fun x hx => ?_, fun k hk => .inl ?_⟩
    · obtain ⟨k, -, rfl⟩ := List.mem_map.mp hx
      rfl
    · rw [List.map_map]
      exact List.mem_map.mpr ⟨k, hk, rfl⟩
  probed hprobed := absurd rfl (hprobed _)
  synced _ hsynced := nomatch hsynced

theorem Starting.start {p : Pipeline σ} {o : PipelineOutcome σ} (hp : p.Starting kinds probe)
    (h : StartStep env p o) : o.pipeline.Starting kinds probe := by
  cases h with
  | @probe k result rest hstart =>
      obtain ⟨hresults, hkinds⟩ := hp.probing _ hstart
      refine ⟨(kinds_setState p k _).trans hp.kinds_eq, ?_, fun h => absurd rfl (h rest), nofun⟩
      rintro _ ⟨⟩
      refine ⟨fun x hx => hresults x (List.mem_cons_of_mem _ hx), fun other hother => ?_⟩
      have hstate := state?_setState p k (probedState result) other.name
      by_cases hk : other = k
      · subst hk
        have hresult : result = probe other := hresults (other, result) (by simp)
        rw [if_pos rfl] at hstate
        exact .inr (Registry.hasProbed_of_probedState (hresult ▸ hstate))
      · rw [if_neg fun heq => hk (Kind.name_injective heq)] at hstate
        rcases hkinds other hother with hrest | hprobed
        · rw [List.map_cons, List.mem_cons] at hrest
          exact .inl (hrest.resolve_left hk)
        · exact .inr (hprobed.congr hstate)
  | probed hstart =>
      refine ⟨hp.kinds_eq, nofun, fun _ k hk => ?_, nofun⟩
      exact ((hp.probing _ hstart).2 k hk).resolve_left List.not_mem_nil
  | @subscribe k rest hstart havailable =>
      refine ⟨(kinds_setState p k _).trans hp.kinds_eq, nofun, fun _ other hother => ?_, nofun⟩
      have hstate := state?_setState p k .syncing other.name
      have hprobed := hp.probed (by simp [hstart]) other hother
      split at hstate
      · exact .inl ⟨.syncing, hstate, rfl⟩
      · exact hprobed.congr hstate
  | skip hstart => exact ⟨hp.kinds_eq, nofun, fun _ => hp.probed (by simp [hstart]), nofun⟩
  | proceed hstart hprobed hopen hsynced =>
      refine ⟨hp.kinds_eq, fun rest hrest => ?_, fun _ => hp.probed hprobed, fun tasks hover => ?_⟩
      · rw [IsUnderWay, hrest] at hstart
        cases hstart
      · exact fun k hk => (hp.probed hprobed k hk).hasSynced (hsynced tasks hover)

/-- The invariant is kept if the phase and the kinds stay the same and no state changes but to
`synced`. -/
theorem Starting.congr {p q : Pipeline σ} (hp : p.Starting kinds probe)
    (hstart : q.start = p.start) (hkinds : q.shared.registry.kinds = p.shared.registry.kinds)
    (hstates : ∀ name, q.shared.registry.state? name = p.shared.registry.state? name
      ∨ q.shared.registry.state? name = some .synced) : q.Starting kinds probe where
  kinds_eq := hkinds.trans hp.kinds_eq
  probing rest hrest := by
    obtain ⟨hresults, hall⟩ := hp.probing rest (hstart ▸ hrest)
    exact ⟨hresults, fun k hk => (hall k hk).imp_right (·.advance (hstates k.name))⟩
  probed hprobed k hk := (hp.probed (hstart ▸ hprobed) k hk).advance (hstates k.name)
  synced tasks hover k hk := (hp.synced tasks (hstart ▸ hover) k hk).advance (hstates k.name)

theorem Starting.act {p : Pipeline σ} (hp : p.Starting kinds probe) {a : PipelineAction}
    {o : PipelineOutcome σ} (h : p.act env a = some o) : o.pipeline.Starting kinds probe := by
  rcases act_cases h with hstart | ⟨i, c, co, hc, hstep, rfl⟩
  · exact hp.start hstart
  · exact hp.congr rfl (congrArg (List.map Handler.kind) hstep.handlers_eq) hstep.state?_eq

theorem Starting.receive {p : Pipeline σ} (hp : p.Starting kinds probe) (e : PipelineEvent) :
    (p.receive e).Starting kinds probe := by
  obtain ⟨-, hstart, hregistry, -⟩ := receive_eq p e
  refine hp.congr hstart (by rw [hregistry]) fun name => .inl (by rw [hregistry])

/-- The invariant `Starting` holds along every run from `begin`. So if the start ends with `synced`,
every kind is `synced` or skipped. -/
theorem Steps.starting {s : Shared σ} {q : Pipeline σ} {seen : List Observation}
    (h : Steps env (begin s probe) seen q) : q.Starting s.registry.kinds probe := by
  induction h with
  | refl => exact starting_begin s probe
  | act _ a ha ih => exact ih.act ha
  | receive _ e ih => exact ih.receive e

/-! ## Handlers -/

/-- No step changes the handlers of the registry. -/
theorem Steps.handlers_eq {p q : Pipeline σ} {seen : List Observation} (h : Steps env p seen q) :
    q.shared.registry.handlers = p.shared.registry.handlers := by
  induction h with
  | refl => rfl
  | @act q o seen _ a ha ih =>
      refine Eq.trans ?_ ih
      rcases act_cases ha with hstart | ⟨i, c, co, hc, hstep, rfl⟩
      · cases hstart with
        | probe _ | subscribe _ _ => exact handlers_setState ..
        | _ => rfl
      · exact hstep.handlers_eq
  | @receive q seen _ e ih =>
      obtain ⟨-, -, hregistry, -⟩ := receive_eq q e
      rw [hregistry, ih]

/-- The handler of a kind along a run. A registry that was made from `handlers` keeps the first of
each kind (`Registry.keepFirst`), and `Registry.handler?` finds it from the beginning of the run to
the end. -/
theorem Steps.handler?_eq {handlers : List Handler} {s : Shared σ} {q : Pipeline σ}
    {seen : List Observation} (hregistry : s.registry = Registry.ofHandlers handlers)
    (h : Steps env (begin s probe) seen q) (name : String) :
    q.shared.registry.handler? name = handlers.find? fun h => h.kind.name = name := by
  have hkept : q.shared.registry.handlers = Registry.keepFirst handlers := by
    rw [h.handlers_eq]
    exact congrArg Registry.handlers hregistry
  rw [Registry.handler?, hkept, Registry.find?_keepFirst]

/-- Once the start is `over`, no action changes its result. -/
theorem start_act_of_over {p : Pipeline σ} {a : PipelineAction} {o : PipelineOutcome σ}
    (h : p.act env a = some o) {result : StartResult} (hover : p.start = .over result) :
    o.pipeline.start = .over result := by
  rcases act_cases h with hstart | ⟨i, c, co, hc, hstep, rfl⟩
  · cases hstart with
    | probe hstart | probed hstart | subscribe hstart | skip hstart =>
        rw [hstart] at hover
        cases hover
    | proceed _ _ hopen => exact absurd hover (hopen result)
  · exact hover

end Pipeline
end ClusterGraph
