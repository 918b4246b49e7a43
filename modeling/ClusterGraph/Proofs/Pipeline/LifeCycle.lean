import ClusterGraph.Proofs.Dict.Bindings
import ClusterGraph.Proofs.Pipeline.Waiting
import Mathlib.Data.List.Destutter

/-!
# ClusterGraph.Proofs.Pipeline.LifeCycle

**The life of a subscription: unchecked, available, syncing, synced; or skipped, if the probe of
the kind said that it is out of reach.**

The start and the consumers write states of kinds at the same time, but never of one kind: a kind
has a consumer only once it is syncing, and the start is done with it then. So the state of a kind
follows from what its probe said, how far the start is, and whether the kind is watched, except
that nobody knows when a watched kind comes to be in sync (`Pipeline.Cycling`). A step leaves the
state of a kind alone or takes it one state further (`SubscriptionState.Moves`), and as no state
comes twice, the last one tells which were before it (`SubscriptionState.soFar`).
-/

namespace ClusterGraph

/-! ## Kinds that are given more than once -/

namespace Registry

/-- The list without repetitions: each kind stays where it comes first. -/
def firsts (kinds : List Kind) : List Kind :=
  (kinds.zipIdx.filter fun x => x.1 ∉ kinds.take x.2).map Prod.fst

theorem ofKinds_concat (kinds : List Kind) (k : Kind) :
    Handler.ofKinds (kinds ++ [k]) = Handler.ofKinds kinds ++ [⟨k, kinds.length⟩] := by
  simp [Handler.ofKinds, List.zipIdx_append]

/-- The handlers that `ofKinds` keeps are those at the places of `kinds` where their kind comes
first. -/
theorem handlers_ofKinds (kinds : List Kind) :
    (ofKinds kinds).handlers
      = (kinds.zipIdx.filter fun x => x.1 ∉ kinds.take x.2).map fun x => ⟨x.1, x.2⟩ := by
  induction kinds using List.reverseRecOn with
  | nil => rfl
  | append_singleton kinds k ih =>
      have hbefore : (kinds.zipIdx.filter fun x => x.1 ∉ (kinds ++ [k]).take x.2)
          = kinds.zipIdx.filter fun x => x.1 ∉ kinds.take x.2 := by
        refine List.filter_congr fun x hx => ?_
        rw [List.take_append_of_le_length (Nat.le_of_lt (List.snd_lt_of_mem_zipIdx hx))]
      have hkept : k ∈ (keepFirst (Handler.ofKinds kinds)).map Handler.kind ↔ k ∈ kinds :=
        mem_kinds_ofKinds
      show keepFirst (Handler.ofKinds (kinds ++ [k])) = _
      rw [ofKinds_concat, keepFirst_concat, List.zipIdx_append, List.filter_append, hbefore,
        List.map_append, ← ih]
      simp only [hkept]
      by_cases hold : k ∈ kinds <;> simp [hold, ofKinds, ofHandlers]

/-- The kinds of the registry are those that were given, each where it comes first. -/
theorem kinds_ofKinds (kinds : List Kind) : (ofKinds kinds).kinds = firsts kinds := by
  unfold Registry.kinds firsts
  rw [handlers_ofKinds, List.map_map]
  rfl

example : firsts [.pod, .node, .pod, .job] = [.pod, .node, .job] := by decide

end Registry

/-! ## States one after the other -/

namespace SubscriptionState

/-- The states of a kind on the way to this one, itself included. -/
def soFar : SubscriptionState → List SubscriptionState
  | unchecked => [unchecked]
  | available => [unchecked, available]
  | syncing => [unchecked, available, syncing]
  | synced => [unchecked, available, syncing, synced]
  | skipped => [unchecked, skipped]

theorem getLast?_soFar (state : SubscriptionState) : state.soFar.getLast? = some state := by
  cases state <;> rfl

theorem soFar_prefix (state : SubscriptionState) :
    state.soFar <+: [unchecked, available, syncing, synced]
      ∨ state.soFar <+: [unchecked, skipped] := by
  cases state <;> decide

/-- The state stays as it is, or becomes the `next` in the order that `soFar` gives. -/
def Moves (before after : Option SubscriptionState) : Prop :=
  after = before
    ∨ ∃ state next, before = some state ∧ after = some next ∧ next.soFar = state.soFar ++ [next]

end SubscriptionState

/-- Adding `b` to a list and dropping repetitions in a row comes to adding `b` to the list without
them, unless the last item is `b` already. -/
theorem destutter_concat {α : Type} [DecidableEq α] {items : List α} {a : α} (b : α)
    (h : (items.destutter (· ≠ ·)).getLast? = some a) : (items ++ [b]).destutter (· ≠ ·)
      = if b = a then items.destutter (· ≠ ·) else items.destutter (· ≠ ·) ++ [b] := by
  cases items with
  | nil => cases h
  | cons first rest =>
      rw [List.destutter_cons'] at h
      rw [List.cons_append, List.destutter_cons', List.destutter_cons']
      induction rest generalizing first with
      | nil =>
          cases h
          by_cases heq : b = first
          · simp [heq]
          · simp [heq, Ne.symm heq]
      | cons second rest ih =>
          rw [List.destutter'_cons] at h
          rw [List.cons_append, List.destutter'_cons, List.destutter'_cons]
          by_cases heq : first = second
          · rw [if_neg (not_not.mpr heq)] at h
            rw [if_neg (not_not.mpr heq), if_neg (not_not.mpr heq)]
            exact ih first h
          · rw [if_pos heq, List.getLast?_cons] at h
            rw [if_pos heq, if_pos heq]
            have hlast : (rest.destutter' (· ≠ ·) second).getLast? = some a := by
              cases hrest : (rest.destutter' (· ≠ ·) second).getLast? with
              | none =>
                  exact absurd (List.getLast?_eq_none_iff.mp hrest) (List.destutter'_ne_nil rest _)
              | some last => rwa [hrest] at h
            rw [ih second hlast]
            split <;> rfl

/-! ## What probes say, and what is watched -/

/-- Whether the result of a probe is `notFound` or `forbidden`. -/
def isOutOfReach : Except ProbeError Unit → Bool
  | .error (.notFound _) | .error (.forbidden _) => true
  | _ => false

theorem probedState_eq (result : Except ProbeError Unit) :
    probedState result = if isOutOfReach result then .skipped else .available := by
  rcases result with (_ | _ | _) | _ <;> rfl

/-- The kinds whose probe is not `isOutOfReach`. -/
def wanted (probe : Kind → Except ProbeError Unit) (kinds : List Kind) : List Kind :=
  kinds.filter fun k => !isOutOfReach (probe k)

/-- The kind of a `watched` observation. -/
def Observation.watched? : Observation → Option Kind
  | watched k => some k
  | _ => none

/-- The kinds of the `watched` observations, in their order. -/
def watches (seen : List Observation) : List Kind :=
  seen.filterMap Observation.watched?

@[simp] theorem watches_nil : watches [] = [] :=
  rfl

@[simp] theorem watches_append (seen more : List Observation) :
    watches (seen ++ more) = watches seen ++ watches more :=
  List.filterMap_append

namespace Consumer.Step

variable {σ : Type} {env : Environment σ} {c : Consumer} {s : Shared σ} {o : ConsumerOutcome σ}

theorem watches_seen (h : Step env c s o) : watches o.seen = [] := by
  cases h <;> rfl

/-- A step of a consumer changes the state of no other kind. -/
theorem state?_of_ne (h : Step env c s o) {name : String} (hname : name ≠ c.kind.name) :
    o.shared.registry.state? name = s.registry.state? name := by
  unfold Registry.state?
  rcases h.registry_cases with ⟨hregistry, -⟩ | ⟨-, -, hstates⟩ | hregistry
  · rw [hregistry]
  · rw [hstates, Dict.find?_insert, if_neg (Ne.symm hname)]
  · rw [hregistry]
    rfl

end Consumer.Step

namespace Pipeline

variable {σ : Type} {env : Environment σ} {kinds : List Kind}
  {probe : Kind → Except ProbeError Unit} {watched : List Kind}

/-! ## Where the kinds are -/

/-- The state of `k` in the registry of the pipeline. -/
abbrev state? (p : Pipeline σ) (k : Kind) : Option SubscriptionState :=
  p.shared.registry.state? k.name

/-- The kinds whose probes the start has still to record. -/
def unprobed (p : Pipeline σ) : List Kind :=
  match p.start with
  | .probing rest => rest.map Prod.fst
  | _ => []

/-- The state of `k` is what the phase of the start calls for: `syncing` or `synced` if `k` is
watched, `unchecked` if it is still to be probed, and otherwise the `probedState` of its probe. -/
def IsSet (probe : Kind → Except ProbeError Unit) (watched : List Kind) (p : Pipeline σ)
    (k : Kind) : Prop :=
  if k ∈ watched then p.state? k = some .syncing ∨ p.state? k = some .synced
  else if k ∈ p.unprobed then p.state? k = some .unchecked
  else p.state? k = some (probedState (probe k))

/-- Invariant of the life cycle: how far the start has come with `kinds`, which kinds are `watched`
by now, and that the state of every kind `IsSet`. -/
structure Cycling (kinds : List Kind) (probe : Kind → Except ProbeError Unit) (watched : List Kind)
    (p : Pipeline σ) : Prop where
  kinds_eq : p.shared.registry.kinds = kinds
  consumers_eq : p.consumers.map Consumer.kind = watched
  probing : ∀ rest, p.start = .probing rest →
    watched = [] ∧ rest <:+ kinds.map fun k => (k, probe k)
  subscribing : ∀ rest, p.start = .subscribing rest →
    ∃ tried, kinds = tried ++ rest ∧ watched = wanted probe tried
  underWay : p.IsUnderWay → watched = wanted probe kinds
  states : ∀ k ∈ kinds, p.IsSet probe watched k

theorem cycling_begin {handlers : List Kind} {s : Shared σ}
    (hregistry : s.registry = Registry.ofKinds handlers) :
    (begin s probe).Cycling (Registry.ofKinds handlers).kinds probe [] where
  kinds_eq := congrArg Registry.kinds hregistry
  consumers_eq := rfl
  probing rest hrest := by
    cases hrest
    rw [hregistry]
    exact ⟨rfl, List.suffix_rfl⟩
  subscribing _ hrest := nomatch hrest
  underWay := nofun
  states k hk := by
    have hunprobed : k ∈ (begin s probe).unprobed := by
      show k ∈ (s.registry.kinds.map fun k => (k, probe k)).map Prod.fst
      rw [hregistry, List.map_map]
      exact List.mem_map.mpr ⟨k, hk, rfl⟩
    rw [IsSet, if_neg List.not_mem_nil, if_pos hunprobed]
    show s.registry.state? k.name = _
    rw [hregistry]
    exact Registry.state?_ofKinds (Registry.mem_kinds_ofKinds.mp hk)

/-! ## Steps -/

theorem IsSet.congr {p q : Pipeline σ} {more : List Kind} {k : Kind} (h : p.IsSet probe watched k)
    (hwatched : k ∈ more ↔ k ∈ watched) (hunprobed : k ∈ q.unprobed ↔ k ∈ p.unprobed)
    (hstate : q.state? k = p.state? k) : q.IsSet probe more k := by
  unfold IsSet at h ⊢
  rw [hstate]
  simp only [hwatched, hunprobed]
  exact h

theorem isSet_of_mem {p : Pipeline σ} {k : Kind} (hk : k ∈ watched)
    (hstate : p.state? k = some .syncing ∨ p.state? k = some .synced) :
    p.IsSet probe watched k := by
  rw [IsSet, if_pos hk]
  exact hstate

theorem unprobed_eq_nil {p : Pipeline σ} (h : ∀ rest, p.start ≠ .probing rest) :
    p.unprobed = [] := by
  unfold unprobed
  split
  · rename_i rest hstart
    exact absurd hstart (h rest)
  · rfl

theorem not_probing_of_isUnderWay {p : Pipeline σ} (h : p.IsUnderWay)
    (rest : List (Kind × Except ProbeError Unit)) : p.start ≠ .probing rest := by
  intro hstart
  rw [IsUnderWay, hstart] at h
  cases h

theorem Cycling.watched_prefix {p : Pipeline σ} (hp : p.Cycling kinds probe watched) :
    watched <+: wanted probe kinds := by
  cases hstart : p.start with
  | probing rest =>
      rw [(hp.probing rest hstart).1]
      exact List.nil_prefix
  | subscribing rest =>
      obtain ⟨tried, hkinds, hwatched⟩ := hp.subscribing rest hstart
      rw [hwatched, hkinds]
      exact (List.prefix_append tried rest).filter _
  | _ =>
      have hwatched := hp.underWay (by rw [IsUnderWay, hstart]; trivial)
      exact ⟨[], (List.append_nil watched).trans hwatched⟩

/-- A kind that is watched is `syncing` or `synced`. -/
theorem Cycling.state?_of_watched {p : Pipeline σ} (hp : p.Cycling kinds probe watched) {k : Kind}
    (hk : k ∈ watched) : p.state? k = some .syncing ∨ p.state? k = some .synced := by
  have hset := hp.states k (List.mem_of_mem_filter (hp.watched_prefix.subset hk))
  rw [IsSet, if_pos hk] at hset
  exact hset

/-- The kind that `subscribeNext` is about is not watched yet, as the kinds are distinct. -/
theorem Cycling.not_watched {p : Pipeline σ} (hp : p.Cycling kinds probe watched)
    (hnodup : kinds.Nodup) {k : Kind} {rest : List Kind}
    (hstart : p.start = .subscribing (k :: rest)) : k ∉ watched := by
  obtain ⟨tried, hkinds, hwatched⟩ := hp.subscribing _ hstart
  rw [hkinds] at hnodup
  have hapart := (List.nodup_append.mp hnodup).2.2
  rw [hwatched]
  intro hk
  exact hapart k (List.mem_of_mem_filter hk) k List.mem_cons_self rfl

/-- The kind that `subscribeNext` is about has the `probedState` of its probe. -/
theorem Cycling.state?_of_subscribing {p : Pipeline σ} (hp : p.Cycling kinds probe watched)
    (hnodup : kinds.Nodup) {k : Kind} {rest : List Kind}
    (hstart : p.start = .subscribing (k :: rest)) : p.state? k = some (probedState (probe k)) := by
  obtain ⟨tried, hkinds, -⟩ := hp.subscribing _ hstart
  have hset := hp.states k (by simp [hkinds])
  rw [IsSet, if_neg (hp.not_watched hnodup hstart), if_neg] at hset
  · exact hset
  · simp [unprobed, hstart]

/-- The kind that `probeNext` is about is `unchecked`, and its result is that of its probe. -/
theorem Cycling.of_probing {p : Pipeline σ} (hp : p.Cycling kinds probe watched)
    (hnodup : kinds.Nodup) {k : Kind} {result : Except ProbeError Unit}
    {rest : List (Kind × Except ProbeError Unit)}
    (hstart : p.start = .probing ((k, result) :: rest)) :
    result = probe k ∧ k ∉ rest.map Prod.fst ∧ p.state? k = some .unchecked := by
  obtain ⟨hwatched, before, hbefore⟩ := hp.probing _ hstart
  have hmem : (k, result) ∈ kinds.map fun k => (k, probe k) := by simp [← hbefore]
  obtain ⟨other, hother, heq⟩ := List.mem_map.mp hmem
  obtain ⟨rfl, rfl⟩ := Prod.mk.inj heq
  have hkinds : before.map Prod.fst ++ other :: rest.map Prod.fst = kinds := by
    have hfst := congrArg (List.map Prod.fst) hbefore
    simpa [Function.comp_def] using hfst
  rw [← hkinds] at hnodup
  refine ⟨rfl, (List.nodup_cons.mp (List.nodup_append.mp hnodup).2.1).1, ?_⟩
  have hset := hp.states other hother
  rw [IsSet, if_neg (hwatched ▸ List.not_mem_nil), if_pos] at hset
  · exact hset
  · simp [unprobed, hstart]

theorem wanted_concat (tried : List Kind) (k : Kind) : wanted probe (tried ++ [k])
    = if isOutOfReach (probe k) then wanted probe tried else wanted probe tried ++ [k] := by
  unfold wanted
  rw [List.filter_append]
  cases h : isOutOfReach (probe k) <;> simp [h]

/-- The invariant is kept when `probeNext` records a result. -/
theorem Cycling.record {p : Pipeline σ} (hp : p.Cycling kinds probe watched)
    (hnodup : kinds.Nodup) {k : Kind} {result : Except ProbeError Unit}
    {rest : List (Kind × Except ProbeError Unit)}
    (hstart : p.start = .probing ((k, result) :: rest)) :
    ({ p.setState k (probedState result) with start := .probing rest } : Pipeline σ).Cycling
      kinds probe watched := by
  obtain ⟨hwatched, before, hbefore⟩ := hp.probing _ hstart
  obtain ⟨rfl, hlast, -⟩ := hp.of_probing hnodup hstart
  refine ⟨(kinds_setState p k _).trans hp.kinds_eq, hp.consumers_eq, ?_, nofun, nofun, ?_⟩
  · rintro _ ⟨⟩
    exact ⟨hwatched, before ++ [(k, probe k)], by simp [hbefore]⟩
  · intro other hother
    have hstate := state?_setState p k (probedState (probe k)) other.name
    by_cases hk : other = k
    · subst hk
      rw [if_pos rfl] at hstate
      rw [IsSet, if_neg (hwatched ▸ List.not_mem_nil)]
      exact (if_neg hlast).mpr hstate
    · rw [if_neg fun heq => hk (Kind.name_injective heq)] at hstate
      refine (hp.states other hother).congr .rfl ?_ hstate
      show other ∈ rest.map Prod.fst ↔ _
      simp [unprobed, hstart, hk]

/-- The invariant is kept when `subscribeNext` adds a consumer: the kind is `wanted`, since it is
`available`. -/
theorem Cycling.subscribe {p : Pipeline σ} (hp : p.Cycling kinds probe watched)
    (hnodup : kinds.Nodup) {k : Kind} {rest : List Kind}
    (hstart : p.start = .subscribing (k :: rest)) (havailable : p.state? k = some .available)
    (lanes : Nat) :
    ({ p.setState k .syncing with
        start := .subscribing rest
        consumers := p.consumers ++ [Consumer.start k lanes] } : Pipeline σ).Cycling
      kinds probe (watched ++ [k]) := by
  obtain ⟨tried, hkinds, hwatched⟩ := hp.subscribing _ hstart
  have hprobed := hp.state?_of_subscribing hnodup hstart
  rw [havailable, probedState_eq] at hprobed
  refine ⟨(kinds_setState p k _).trans hp.kinds_eq, ?_, nofun, ?_, nofun, ?_⟩
  · rw [List.map_append, hp.consumers_eq]
    rfl
  · rintro _ ⟨⟩
    refine ⟨tried ++ [k], by simp [hkinds], ?_⟩
    rw [wanted_concat, hwatched, if_neg]
    intro hreach
    rw [if_pos hreach] at hprobed
    cases hprobed
  · intro other hother
    have hstate := state?_setState p k .syncing other.name
    by_cases hk : other = k
    · subst hk
      rw [if_pos rfl] at hstate
      exact isSet_of_mem (List.mem_append_right _ List.mem_cons_self) (.inl hstate)
    · rw [if_neg fun heq => hk (Kind.name_injective heq)] at hstate
      refine (hp.states other hother).congr ?_ ?_ hstate
      · rw [List.mem_append]
        exact or_iff_left fun hmem => hk (List.mem_singleton.mp hmem)
      · simp [unprobed, hstart]

/-- The invariant is kept when `subscribeNext` passes a kind over: the kind is not `wanted`. -/
theorem Cycling.skip {p : Pipeline σ} (hp : p.Cycling kinds probe watched)
    (hnodup : kinds.Nodup) {k : Kind} {rest : List Kind}
    (hstart : p.start = .subscribing (k :: rest)) (hskipped : p.state? k ≠ some .available) :
    ({ p with start := .subscribing rest } : Pipeline σ).Cycling kinds probe watched := by
  obtain ⟨tried, hkinds, hwatched⟩ := hp.subscribing _ hstart
  have hprobed := hp.state?_of_subscribing hnodup hstart
  refine ⟨hp.kinds_eq, hp.consumers_eq, nofun, ?_, nofun, fun other hother => ?_⟩
  · rintro _ ⟨⟩
    refine ⟨tried ++ [k], by simp [hkinds], ?_⟩
    rw [wanted_concat, hwatched, if_pos]
    rw [probedState_eq] at hprobed
    by_contra hreach
    rw [if_neg hreach] at hprobed
    exact hskipped hprobed
  · refine (hp.states other hother).congr .rfl ?_ rfl
    simp [unprobed, hstart]

/-- Once no kind is left to probe or to subscribe to, the kinds that are watched are those that are
`wanted`. -/
theorem Cycling.watched_eq {p : Pipeline σ} (hp : p.Cycling kinds probe watched)
    (hprobed : ∀ rest, p.start ≠ .probing rest)
    (htried : ∀ k rest, p.start ≠ .subscribing (k :: rest)) : watched = wanted probe kinds := by
  cases hstart : p.start with
  | probing rest => exact absurd hstart (hprobed rest)
  | subscribing rest =>
      obtain ⟨tried, hkinds, hwatched⟩ := hp.subscribing _ hstart
      cases rest with
      | nil => rw [hwatched, hkinds, List.append_nil]
      | cons k rest => exact absurd hstart (htried k rest)
  | _ => exact hp.underWay (by rw [IsUnderWay, hstart]; trivial)

theorem StartStep.cycling {p : Pipeline σ} {o : PipelineOutcome σ} (h : StartStep env p o)
    (hnodup : kinds.Nodup) (hp : p.Cycling kinds probe watched) :
    o.pipeline.Cycling kinds probe (watched ++ watches o.seen) := by
  cases h with
  | probe hstart =>
      rw [watches_nil, List.append_nil]
      exact hp.record hnodup hstart
  | probed hstart =>
      obtain ⟨hwatched, -⟩ := hp.probing _ hstart
      rw [watches_nil, List.append_nil]
      refine ⟨hp.kinds_eq, hp.consumers_eq, nofun, ?_, nofun, fun k hk => ?_⟩
      · rintro _ ⟨⟩
        exact ⟨[], hp.kinds_eq.symm, hwatched⟩
      · refine (hp.states k hk).congr .rfl ?_ rfl
        simp [unprobed, hstart]
  | subscribe hstart havailable => exact hp.subscribe hnodup hstart havailable env.lanes
  | skip hstart hskipped =>
      rw [watches_nil, List.append_nil]
      exact hp.skip hnodup hstart hskipped
  | proceed hstart hprobed hopen hsynced htried =>
      rw [watches_nil, List.append_nil]
      refine ⟨hp.kinds_eq, hp.consumers_eq, fun rest hrest => ?_, fun rest hrest => ?_,
        fun _ => hp.watched_eq hprobed htried, fun k hk => ?_⟩
      · exact absurd hrest (not_probing_of_isUnderWay hstart rest)
      · rw [IsUnderWay, hrest] at hstart
        cases hstart
      · refine (hp.states k hk).congr .rfl ?_ rfl
        rw [unprobed_eq_nil hprobed, unprobed_eq_nil (not_probing_of_isUnderWay hstart)]

/-! ## Moves -/

theorem StartStep.moves {p : Pipeline σ} {o : PipelineOutcome σ} (h : StartStep env p o)
    (hnodup : kinds.Nodup) (hp : p.Cycling kinds probe watched) (k : Kind) :
    SubscriptionState.Moves (p.state? k) (o.pipeline.state? k) := by
  cases h with
  | @probe other result rest hstart =>
      have hstate := state?_setState p other (probedState result) k.name
      by_cases hk : k = other
      · subst hk
        obtain ⟨-, -, hunchecked⟩ := hp.of_probing hnodup hstart
        rw [if_pos rfl] at hstate
        refine .inr ⟨_, _, hunchecked, hstate, ?_⟩
        rw [probedState_eq]
        split <;> rfl
      · rw [if_neg fun heq => hk (Kind.name_injective heq)] at hstate
        exact .inl hstate
  | @subscribe other rest hstart havailable =>
      have hstate := state?_setState p other .syncing k.name
      by_cases hk : k = other
      · subst hk
        rw [if_pos rfl] at hstate
        exact .inr ⟨_, _, havailable, hstate, rfl⟩
      · rw [if_neg fun heq => hk (Kind.name_injective heq)] at hstate
        exact .inl hstate
  | _ => exact .inl rfl

/-- What a step of a consumer does to the state of `k`: nothing, or `k` is watched, `syncing` or
`synced`, and it becomes `synced`. -/
theorem Cycling.consumer {p : Pipeline σ} (hp : p.Cycling kinds probe watched) {i : Nat}
    {c : Consumer} {o : ConsumerOutcome σ} (hc : p.consumers[i]? = some c)
    (hstep : Consumer.Step env c p.shared o) (k : Kind) :
    o.shared.registry.state? k.name = p.state? k
      ∨ (k ∈ watched ∧ (p.state? k = some .syncing ∨ p.state? k = some .synced)
        ∧ o.shared.registry.state? k.name = some .synced) := by
  by_cases hk : k = c.kind
  · subst hk
    have hwatched : c.kind ∈ watched := by
      rw [← hp.consumers_eq]
      exact List.mem_map_of_mem (List.mem_of_getElem? hc)
    exact (hstep.state?_eq c.kind.name).imp_right
      fun hsynced => ⟨hwatched, hp.state?_of_watched hwatched, hsynced⟩
  · exact .inl (hstep.state?_of_ne fun heq => hk (Kind.name_injective heq))

theorem Cycling.act (hnodup : kinds.Nodup) {p : Pipeline σ} (hp : p.Cycling kinds probe watched)
    {a : PipelineAction} {o : PipelineOutcome σ} (ha : p.act env a = some o) :
    o.pipeline.Cycling kinds probe (watched ++ watches o.seen)
      ∧ ∀ k, SubscriptionState.Moves (p.state? k) (o.pipeline.state? k) := by
  rcases act_cases ha with hstart | ⟨i, c, co, hc, hstep, rfl⟩
  · exact ⟨hstart.cycling hnodup hp, hstart.moves hnodup hp⟩
  · have hcases := hp.consumer hc hstep
    rw [hstep.watches_seen, List.append_nil]
    refine ⟨⟨(congrArg (List.map Handler.kind) hstep.handlers_eq).trans hp.kinds_eq, ?_, hp.probing, hp.subscribing, hp.underWay,
      fun k hk => ?_⟩, fun k => ?_⟩
    · rw [map_kind_set hc hstep.kind_eq, hp.consumers_eq]
    · rcases hcases k with hsame | ⟨hwatched, -, hsynced⟩
      · exact (hp.states k hk).congr .rfl .rfl hsame
      · exact isSet_of_mem hwatched (.inr hsynced)
    · rcases hcases k with hsame | ⟨-, hsyncing | hsynced, hafter⟩
      · exact .inl hsame
      · exact .inr ⟨_, _, hsyncing, hafter, rfl⟩
      · exact .inl (hafter.trans hsynced.symm)

theorem Cycling.receive {p : Pipeline σ} (hp : p.Cycling kinds probe watched)
    (e : PipelineEvent) : (p.receive e).Cycling kinds probe watched := by
  obtain ⟨hkinds, hstart, hregistry, -⟩ := receive_eq p e
  refine ⟨?_, hkinds.trans hp.consumers_eq, fun rest hrest => hp.probing rest (hstart ▸ hrest),
    fun rest hrest => hp.subscribing rest (hstart ▸ hrest), fun hunderWay => hp.underWay ?_,
    fun k hk => (hp.states k hk).congr .rfl ?_ ?_⟩
  · rw [hregistry]
    exact hp.kinds_eq
  · rw [IsUnderWay, hstart] at hunderWay
    exact hunderWay
  · unfold unprobed
    rw [hstart]
  · unfold state?
    rw [hregistry]

/-! ## Runs -/

/-- A run that remembers the states it came through: `visited` begins with `p` and ends with the
last. -/
inductive Passes (env : Environment σ) (p : Pipeline σ) :
    List (Pipeline σ) → List Observation → Pipeline σ → Prop where
  | refl : Passes env p [p] [] p
  | act {q : Pipeline σ} {o : PipelineOutcome σ} {visited : List (Pipeline σ)}
      {seen : List Observation} (h : Passes env p visited seen q) (a : PipelineAction)
      (ha : q.act env a = some o) :
      Passes env p (visited ++ [o.pipeline]) (seen ++ o.seen) o.pipeline
  | receive {q : Pipeline σ} {visited : List (Pipeline σ)} {seen : List Observation}
      (h : Passes env p visited seen q) (e : PipelineEvent) :
      Passes env p (visited ++ [q.receive e]) seen (q.receive e)

/-- Every run is one of `Passes`, for some list of states. -/
theorem Steps.exists_passes {p q : Pipeline σ} {seen : List Observation} (h : Steps env p seen q) :
    ∃ visited, Passes env p visited seen q := by
  induction h with
  | refl => exact ⟨_, .refl⟩
  | act _ a ha ih =>
      obtain ⟨visited, hvisited⟩ := ih
      exact ⟨_, hvisited.act a ha⟩
  | receive _ e ih =>
      obtain ⟨visited, hvisited⟩ := ih
      exact ⟨_, hvisited.receive e⟩

/-- The states of `k` along `visited`, without repetitions in a row. -/
def statesOf (k : Kind) (visited : List (Pipeline σ)) : List (Option SubscriptionState) :=
  (visited.map fun p => p.state? k).destutter (· ≠ ·)

/-- If the states of `k` along `visited` are those `soFar`, they still are after one of the
`Moves`. -/
theorem statesOf_concat {visited : List (Pipeline σ)} {p q : Pipeline σ} {k : Kind}
    {state : SubscriptionState} (hstate : p.state? k = some state)
    (htold : statesOf k visited = state.soFar.map some)
    (hmoves : SubscriptionState.Moves (p.state? k) (q.state? k)) :
    ∃ next, q.state? k = some next ∧ statesOf k (visited ++ [q]) = next.soFar.map some := by
  have hlast : (statesOf k visited).getLast? = some (some state) := by
    rw [htold, List.getLast?_map, state.getLast?_soFar]
    rfl
  have hconcat : statesOf k (visited ++ [q])
      = if q.state? k = some state then statesOf k visited
        else statesOf k visited ++ [q.state? k] := by
    unfold statesOf
    rw [List.map_append]
    exact destutter_concat _ hlast
  rcases hmoves with hsame | ⟨before, next, hbefore, hnext, hsoFar⟩
  · exact ⟨state, hsame.trans hstate, by rw [hconcat, if_pos (hsame.trans hstate), htold]⟩
  · rw [hstate] at hbefore
    cases hbefore
    refine ⟨next, hnext, ?_⟩
    have hne : next ≠ state := by
      rintro rfl
      have hlength := congrArg List.length hsoFar
      simp at hlength
    rw [hconcat, hnext, if_neg (by simpa using hne), htold, hsoFar, List.map_append]
    rfl

theorem Passes.cycling {handlers : List Kind} {s : Shared σ}
    (hregistry : s.registry = Registry.ofKinds handlers) {visited : List (Pipeline σ)}
    {seen : List Observation} {q : Pipeline σ} (h : Passes env (begin s probe) visited seen q) :
    q.Cycling (Registry.ofKinds handlers).kinds probe (watches seen)
      ∧ ∀ k ∈ handlers, ∃ state, q.state? k = some state
          ∧ statesOf k visited = state.soFar.map some := by
  have hnodup := Registry.nodup_kinds_ofKinds handlers
  induction h with
  | refl =>
      refine ⟨cycling_begin hregistry, fun k hk => ⟨.unchecked, ?_, ?_⟩⟩
      · show s.registry.state? k.name = _
        rw [hregistry]
        exact Registry.state?_ofKinds hk
      · show [s.registry.state? k.name] = _
        rw [hregistry, Registry.state?_ofKinds hk]
        rfl
  | act h a ha ih =>
      obtain ⟨hcycling, hstates⟩ := ih
      obtain ⟨hnext, hmoves⟩ := hcycling.act hnodup ha
      refine ⟨by rwa [watches_append], fun k hk => ?_⟩
      obtain ⟨state, hstate, htold⟩ := hstates k hk
      exact statesOf_concat hstate htold (hmoves k)
  | @receive r visited seen h e ih =>
      obtain ⟨hcycling, hstates⟩ := ih
      refine ⟨hcycling.receive e, fun k hk => ?_⟩
      obtain ⟨state, hstate, htold⟩ := hstates k hk
      obtain ⟨-, -, hregistry, -⟩ := receive_eq r e
      refine statesOf_concat hstate htold (.inl ?_)
      unfold state?
      rw [hregistry]

theorem exists_isUnderWay_of_subscribing (env : Environment σ) {p : Pipeline σ} {rest : List Kind}
    (hstart : p.start = .subscribing rest) : ∃ more r, Steps env p more r ∧ r.IsUnderWay := by
  induction rest generalizing p with
  | nil =>
      have ha : p.act env (.start .subscribe)
          = some ⟨{ p with start := .looking p.shared.registry.changes }, []⟩ := by
        simp [act, actStart, subscribeNext, hstart]
      exact ⟨_, _, (Steps.refl p).act _ ha, trivial⟩
  | cons k rest ih =>
      have hnext : ∃ o, p.act env (.start .subscribe) = some o
          ∧ o.pipeline.start = .subscribing rest := by
        simp only [act, actStart, subscribeNext, hstart]
        split <;> exact ⟨_, rfl, rfl⟩
      obtain ⟨o, ha, hrest⟩ := hnext
      obtain ⟨more, r, hr, hunderWay⟩ := ih hrest
      exact ⟨_, r, ((Steps.refl p).act _ ha).trans hr, hunderWay⟩

theorem exists_isUnderWay_of_probing (env : Environment σ) {p : Pipeline σ}
    {rest : List (Kind × Except ProbeError Unit)} (hstart : p.start = .probing rest) :
    ∃ more r, Steps env p more r ∧ r.IsUnderWay := by
  induction rest generalizing p with
  | nil =>
      have hnext : ∃ o, p.act env (.start .probe) = some o
          ∧ o.pipeline.start = .subscribing p.shared.registry.kinds := by
        simp only [act, actStart, probeNext, hstart]
        exact ⟨_, rfl, rfl⟩
      obtain ⟨o, ha, hrest⟩ := hnext
      obtain ⟨more, r, hr, hunderWay⟩ := exists_isUnderWay_of_subscribing env hrest
      exact ⟨_, r, ((Steps.refl p).act _ ha).trans hr, hunderWay⟩
  | cons x rest ih =>
      have hnext : ∃ o, p.act env (.start .probe) = some o ∧ o.pipeline.start = .probing rest := by
        simp only [act, actStart, probeNext, hstart]
        exact ⟨_, rfl, rfl⟩
      obtain ⟨o, ha, hrest⟩ := hnext
      obtain ⟨more, r, hr, hunderWay⟩ := ih hrest
      exact ⟨_, r, ((Steps.refl p).act _ ha).trans hr, hunderWay⟩

/-- Whatever the state of the pipeline, the start alone can bring it under way. -/
theorem exists_isUnderWay (env : Environment σ) (p : Pipeline σ) :
    ∃ more r, Steps env p more r ∧ r.IsUnderWay := by
  cases hstart : p.start with
  | probing rest => exact exists_isUnderWay_of_probing env hstart
  | subscribing rest => exact exists_isUnderWay_of_subscribing env hstart
  | _ => exact ⟨[], p, .refl p, by rw [IsUnderWay, hstart]; trivial⟩

/-- Specification of the subscriptions along a run from `begin`, where `handlers` are the kinds of
the handlers in the order in which they were given, with repetitions. -/
structure LifeCycle (env : Environment σ) (handlers : List Kind)
    (probe : Kind → Except ProbeError Unit) (visited : List (Pipeline σ)) (seen : List Observation)
    (q : Pipeline σ) : Prop where
  /-- The states of a kind along the run are the beginning of one of two sequences, and the last is
  the one that it has. -/
  states : ∀ k ∈ handlers, ∃ states : List SubscriptionState,
    statesOf k visited = states.map some ∧ states.getLast? = q.state? k
      ∧ (states <+: [.unchecked, .available, .syncing, .synced] ∨ states <+: [.unchecked, .skipped])
  /-- A kind is `skipped` if and only if its probe `isOutOfReach` and has been recorded. -/
  skipped : ∀ k ∈ handlers,
    q.state? k = some .skipped ↔ isOutOfReach (probe k) = true ∧ k ∉ q.unprobed
  /-- Only the first handler of each kind is probed, in the order of the handlers. -/
  probed : ∀ rest, q.start = .probing rest →
    rest <:+ (Registry.firsts handlers).map fun k => (k, probe k)
  /-- No kind is watched twice. -/
  once : (watches seen).Nodup
  /-- The kinds that are watched are the first of those that are `wanted`. -/
  watched : watches seen <+: wanted probe (Registry.firsts handlers)
  /-- Once the start is under way, all kinds that are `wanted` are watched. -/
  tried : q.IsUnderWay → watches seen = wanted probe (Registry.firsts handlers)
  /-- The start can always be brought under way. -/
  goesOn : ∃ more r, Steps env q more r ∧ r.IsUnderWay
  /-- Each watch has one consumer, and no kind has another. -/
  consumers : q.consumers.map Consumer.kind = watches seen
  /-- When a worker begins with a notification, its kind is watched and `syncing` or `synced`. -/
  began : ∀ a o k n, q.act env a = some o → .began k n ∈ o.seen →
    k ∈ watches seen ∧ (q.state? k = some .syncing ∨ q.state? k = some .synced)

theorem Cycling.state?_eq_skipped_iff {p : Pipeline σ} (hp : p.Cycling kinds probe watched)
    {k : Kind} (hk : k ∈ kinds) :
    p.state? k = some .skipped ↔ isOutOfReach (probe k) = true ∧ k ∉ p.unprobed := by
  have hset := hp.states k hk
  unfold IsSet at hset
  split at hset
  · rename_i hwatched
    have hreach : isOutOfReach (probe k) = false := by
      have hmem := hp.watched_prefix.subset hwatched
      simpa using (List.mem_filter.mp hmem).2
    rcases hset with hstate | hstate <;> simp [hstate, hreach]
  · split at hset
    · rename_i hunprobed
      simp [hset, hunprobed]
    · rename_i hprobed
      rw [hset, probedState_eq]
      cases isOutOfReach (probe k) <;> simp [hprobed]

/-- Life cycle of the subscriptions, for every list of handlers, every result of the probes, and
every order of steps and events. A kind goes from `unchecked` to `available`, `syncing` and
`synced`, as far as it comes, or from `unchecked` to `skipped`, which it does if and only if its
probe is `notFound` or `forbidden`. Of each kind the first handler is probed, watched and given a
consumer; handlers of the same kind that come later have no part in the run. -/
theorem Passes.lifeCycle {handlers : List Kind} {s : Shared σ}
    (hregistry : s.registry = Registry.ofKinds handlers) {visited : List (Pipeline σ)}
    {seen : List Observation} {q : Pipeline σ} (h : Passes env (begin s probe) visited seen q) :
    LifeCycle env handlers probe visited seen q := by
  obtain ⟨hcycling, hstates⟩ := h.cycling hregistry
  have hprefix := hcycling.watched_prefix
  have hnodup := (Registry.nodup_kinds_ofKinds handlers).filter fun k => !isOutOfReach (probe k)
  refine ⟨fun k hk => ?_, fun k hk => ?_, ?_, hnodup.sublist hprefix.sublist, ?_, ?_,
    exists_isUnderWay env q, hcycling.consumers_eq, fun a o k n ha hbegan => ?_⟩
  · obtain ⟨state, hstate, htold⟩ := hstates k hk
    exact ⟨state.soFar, htold, state.getLast?_soFar.trans hstate.symm, state.soFar_prefix⟩
  · exact hcycling.state?_eq_skipped_iff (Registry.mem_kinds_ofKinds.mpr hk)
  · rw [← Registry.kinds_ofKinds]
    exact fun rest hrest => (hcycling.probing rest hrest).2
  · rw [← Registry.kinds_ofKinds]
    exact hprefix
  · rw [← Registry.kinds_ofKinds]
    exact hcycling.underWay
  · have hwatched : k ∈ watches seen := by
      rcases act_cases ha with hstart | ⟨i, c, co, hc, hstep, rfl⟩
      · cases hstart <;> simp at hbegan
      · have hkind : k = c.kind := hstep.kind_of_mem_seen _ hbegan
        rw [hkind, ← hcycling.consumers_eq]
        exact List.mem_map_of_mem (List.mem_of_getElem? hc)
    exact ⟨hwatched, hcycling.state?_of_watched hwatched⟩

/-- A run to which `lifeCycle` applies: pods are given twice and nodes are `forbidden`, so pods are
watched once and nodes are `skipped`. -/
theorem lifeCycle_forbidden :
    ∃ (probe : Kind → Except ProbeError Unit) (visited : List (Pipeline Unit))
      (seen : List Observation) (q : Pipeline Unit),
      probe .node = .error (.forbidden "nodes.v1") ∧ q.IsUnderWay ∧ watches seen = [.pod]
        ∧ statesOf .node visited = [some .unchecked, some .skipped]
        ∧ LifeCycle oneLane [.pod, .node, .pod] probe visited seen q := by
  let probe : Kind → Except ProbeError Unit
    | .node => .error (.forbidden "nodes.v1")
    | _ => .ok ()
  let s : Shared Unit := { podsAlone with registry := Registry.ofKinds [.pod, .node, .pod] }
  have hrun : (replay oneLane
      [.act (.start .probe), .act (.start .probe), .act (.start .probe), .act (.start .subscribe),
        .act (.start .subscribe), .act (.start .subscribe)] (begin s probe)).map
        (fun r => (r.1, r.2.start, r.2.state? .node))
      = some ([.watched .pod], .looking 3, some .skipped) := by
    with_unfolding_all rfl
  obtain ⟨⟨seen, q⟩, hreplay, heq⟩ := Option.map_eq_some_iff.mp hrun
  obtain ⟨rfl, heq⟩ := Prod.mk.inj heq
  obtain ⟨hstart, hskipped⟩ := Prod.mk.inj heq
  obtain ⟨visited, h⟩ := (steps_of_replay hreplay).exists_passes
  have hlife : LifeCycle oneLane [.pod, .node, .pod] probe visited [.watched .pod] q :=
    h.lifeCycle rfl
  have hstart : q.start = .looking 3 := hstart
  have hskipped : q.state? .node = some .skipped := hskipped
  obtain ⟨states, htold, hlast, hprefix⟩ := hlife.states .node (by decide)
  rw [hskipped] at hlast
  refine ⟨probe, visited, _, q, rfl, by rw [IsUnderWay, hstart]; trivial, rfl, ?_, hlife⟩
  rw [htold]
  rcases hprefix with hprefix | hprefix
  · have hmem := hprefix.subset (List.mem_of_getLast? hlast)
    simp at hmem
  -- Of the beginnings of the shorter sequence, the whole of it is the one that ends so.
  · rcases List.prefix_cons_iff.mp hprefix with rfl | ⟨rest, rfl, hrest⟩
    · cases hlast
    · rcases List.prefix_cons_iff.mp hrest with rfl | ⟨last, rfl, hnone⟩
      · cases hlast
      · rw [List.prefix_nil.mp hnone]
        rfl

end Pipeline
end ClusterGraph
