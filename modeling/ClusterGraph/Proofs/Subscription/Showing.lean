import ClusterGraph.Subscription.Registry
import ClusterGraph.Proofs.Dict.Bindings
import Mathlib.Data.List.Induction
import Mathlib.Data.List.Nodup

/-!
# ClusterGraph.Proofs.Subscription.Showing

**The states that are recorded, the gauges that show them, and the signals to those who wait say
the same of every kind.**

What is recorded of a kind is the state that was set last, or at the start that it is unchecked
(`Registry.recorded`). That the gauges show it is an invariant (`Registry.Shows`): to set a state
is to write all gauges of one kind, unless the kind has the state already, and then they show it
already. Whoever waits is told in the first case and not in the second.
-/

namespace ClusterGraph

/-- The `text` of a state is not that of another one. -/
theorem SubscriptionState.text_injective : Function.Injective SubscriptionState.text := by
  intro s s' h
  cases s <;> cases s' <;> first | rfl | exact absurd h (by decide)

/-! ## The gauges of a kind -/

namespace Metrics

variable {samples : Samples}

/-- All labels in the samples are a kind and the `text` of a state. -/
def OnlyStates (samples : Samples) : Prop :=
  ∀ labels, (samples.find? labels).isSome →
    ∃ (kind : String) (state : SubscriptionState), labels = [kind, state.text]

/-- Set the gauges of `kind` for the states in `which`: 1 for `state`, 0 for the others. -/
def setGauges (kind : String) (state : SubscriptionState) (which : List SubscriptionState)
    (samples : Samples) : Samples :=
  which.foldl (fun samples s => samples.set [kind, s.text] (if s = state then 1 else 0)) samples

theorem states_publishState (m : Metrics) (kind : String) (state : SubscriptionState) :
    (m.publishState kind state).states = setGauges kind state SubscriptionState.all m.states :=
  rfl

theorem find?_setGauges (kind : String) (state : SubscriptionState)
    (which : List SubscriptionState) (samples : Samples) (name : String)
    (other : SubscriptionState) :
    (setGauges kind state which samples).find? [name, other.text]
      = if kind = name ∧ other ∈ which then some (if other = state then 1 else 0)
        else samples.find? [name, other.text] := by
  induction which generalizing samples with
  | nil => simp [setGauges]
  | cons s rest ih =>
      -- Two states never share a gauge, so no write hides an earlier one.
      have hlabels : [kind, s.text] = [name, other.text] ↔ kind = name ∧ s = other := by
        simp [SubscriptionState.text_injective.eq_iff]
      rw [setGauges, List.foldl_cons, ← setGauges, ih, Samples.find?_set]
      grind

/-- Looking up a gauge after `publishState`: those of `kind` are written, those of other kinds are
as before. -/
theorem find?_publishState (m : Metrics) (kind : String) (state : SubscriptionState)
    (name : String) (other : SubscriptionState) :
    (m.publishState kind state).states.find? [name, other.text]
      = if kind = name then some (if other = state then 1 else 0)
        else m.states.find? [name, other.text] := by
  rw [states_publishState, find?_setGauges]
  simp only [SubscriptionState.mem_all, and_true]

theorem OnlyStates.setGauges (h : OnlyStates samples) (kind : String) (state : SubscriptionState)
    (which : List SubscriptionState) : OnlyStates (setGauges kind state which samples) := by
  induction which generalizing samples with
  | nil => exact h
  | cons s rest ih =>
      refine ih fun labels hfound => ?_
      rw [Samples.find?_set] at hfound
      split at hfound
      · rename_i hlabels
        exact ⟨kind, s, hlabels.symm⟩
      · exact h labels hfound

end Metrics

namespace Registry

variable {r : Registry} {m : Metrics} {kinds : List Kind} {handlers : List Handler}

/-! ## The handlers at the start -/

theorem keepFirst_concat (handlers : List Handler) (h : Handler) : keepFirst (handlers ++ [h])
    = if h.kind ∈ (keepFirst handlers).map Handler.kind then keepFirst handlers
      else keepFirst handlers ++ [h] := by
  unfold keepFirst
  rw [List.foldl_append]
  rfl

theorem mem_map_kind_keepFirst {k : Kind} :
    k ∈ (keepFirst handlers).map Handler.kind ↔ k ∈ handlers.map Handler.kind := by
  induction handlers using List.reverseRecOn generalizing k with
  | nil => rfl
  | append_singleton handlers last ih =>
      rw [keepFirst_concat, List.map_append, List.mem_append, List.map_singleton,
        List.mem_singleton, ← ih]
      split
      · rename_i hold
        exact ⟨.inl, fun h => h.elim id fun heq => heq ▸ hold⟩
      · rw [List.map_append, List.mem_append, List.map_singleton, List.mem_singleton]

theorem nodup_map_kind_keepFirst (handlers : List Handler) :
    ((keepFirst handlers).map Handler.kind).Nodup := by
  induction handlers using List.reverseRecOn with
  | nil => exact List.nodup_nil
  | append_singleton handlers last ih =>
      rw [keepFirst_concat]
      split
      · exact ih
      · rename_i hnew
        rw [List.map_append]
        exact List.nodup_append.mpr ⟨ih, List.nodup_singleton _, fun k hk other hother => by
          rw [List.mem_singleton.mp hother]
          exact fun heq => hnew (heq ▸ hk)⟩

/-- Looking up a name among the handlers after `keepFirst` finds the first handler of that name. -/
theorem find?_keepFirst (handlers : List Handler) (name : String) :
    (keepFirst handlers).find? (fun h => h.kind.name = name)
      = handlers.find? fun h => h.kind.name = name := by
  induction handlers using List.reverseRecOn with
  | nil => rfl
  | append_singleton handlers last ih =>
      rw [keepFirst_concat, List.find?_append, ← ih]
      split
      · rename_i hold
        obtain ⟨kept, hkept, hkind⟩ := List.mem_map.mp hold
        by_cases hname : last.kind.name = name
        · have hsome : ((keepFirst handlers).find? fun h => h.kind.name = name).isSome :=
            List.find?_isSome.mpr ⟨kept, hkept, by simp [hkind, hname]⟩
          rw [Option.or_of_isSome hsome]
        · simp [hname]
      · rw [List.find?_append]

theorem map_kind_ofKinds (kinds : List Kind) : (Handler.ofKinds kinds).map Handler.kind = kinds := by
  unfold Handler.ofKinds
  rw [List.map_map]
  exact List.zipIdx_map_fst 0 kinds

theorem mem_kinds_ofKinds {k : Kind} : k ∈ (ofKinds kinds).kinds ↔ k ∈ kinds := by
  refine mem_map_kind_keepFirst.trans ?_
  rw [map_kind_ofKinds]

theorem nodup_kinds_ofKinds (kinds : List Kind) : (ofKinds kinds).kinds.Nodup :=
  nodup_map_kind_keepFirst _

/-- In `ofKinds kinds`, every one of the kinds is `.unchecked`, and no other name has a state. -/
theorem state?_ofKinds_eq (kinds : List Kind) (name : String) :
    (ofKinds kinds).state? name = if name ∈ kinds.map Kind.name then some .unchecked else none := by
  have hbinding : ∀ binding ∈ (ofKinds kinds).handlers.map
      fun h => (h.kind.name, SubscriptionState.unchecked),
      binding.1 ∈ kinds.map Kind.name ∧ binding.2 = .unchecked := by
    intro binding hmem
    obtain ⟨h, hh, rfl⟩ := List.mem_map.mp hmem
    exact ⟨List.mem_map_of_mem (mem_kinds_ofKinds.mp (List.mem_map_of_mem hh)), rfl⟩
  split
  · rename_i hname
    obtain ⟨k, hk, rfl⟩ := List.mem_map.mp hname
    obtain ⟨h, hh, rfl⟩ := List.mem_map.mp (mem_kinds_ofKinds.mpr hk)
    refine Dict.find?_ofList_eq_some ?_ fun binding hmem _ => (hbinding binding hmem).2
    exact List.mem_map.mpr ⟨h, hh, rfl⟩
  · rename_i hname
    exact Dict.find?_ofList_eq_none fun binding hmem heq => hname (heq ▸ (hbinding binding hmem).1)

theorem state?_ofKinds {k : Kind} (hk : k ∈ kinds) :
    (ofKinds kinds).state? k.name = some .unchecked := by
  rw [state?_ofKinds_eq, if_pos (List.mem_map_of_mem hk)]

theorem ordered_ofKinds (kinds : List Kind) : (ofKinds kinds).states.Ordered :=
  Dict.ordered_ofList _

/-! ## Setting a state -/

/-- Equation of `setState` where the state is new: `record` it, and then `signal` the change. -/
theorem setState_of_state?_ne {name : String} {state : SubscriptionState}
    (h : r.state? name ≠ some state) (m : Metrics) :
    setState name state r m = ((r.record name state m).1.signal, (r.record name state m).2) := by
  unfold setState
  rw [if_neg h]

theorem state?_setState (name : String) (state : SubscriptionState) (r : Registry) (m : Metrics)
    (other : String) :
    (setState name state r m).1.state? other
      = if name = other then some state else r.state? other := by
  by_cases hset : r.state? name = some state
  · rw [setState_of_state?_eq hset]
    split
    · rename_i heq
      rw [← heq, hset]
    · rfl
  · rw [setState_of_state?_ne hset]
    exact Dict.find?_insert ..

@[simp] theorem handlers_setState (name : String) (state : SubscriptionState) (r : Registry)
    (m : Metrics) : (setState name state r m).1.handlers = r.handlers := by
  by_cases hset : r.state? name = some state
  · rw [setState_of_state?_eq hset]
  · rw [setState_of_state?_ne hset]
    rfl

@[simp] theorem notifications_setState (name : String) (state : SubscriptionState) (r : Registry)
    (m : Metrics) : (setState name state r m).2.notifications = m.notifications := by
  by_cases hset : r.state? name = some state
  · rw [setState_of_state?_eq hset]
  · rw [setState_of_state?_ne hset]
    rfl

theorem ordered_setState (h : r.states.Ordered) (name : String) (state : SubscriptionState)
    (m : Metrics) : (setState name state r m).1.states.Ordered := by
  by_cases hstate : r.state? name = some state
  · rw [setState_of_state?_eq hstate]
    exact h
  · rw [setState_of_state?_ne hstate]
    exact h.insert name state

/-- The number of `changes` after `setState` is one more, unless the name had that state already. -/
theorem changes_setState (name : String) (state : SubscriptionState) (r : Registry) (m : Metrics) :
    (setState name state r m).1.changes
      = if r.state? name = some state then r.changes else r.changes + 1 := by
  split
  · rename_i hset
    rw [setState_of_state?_eq hset]
  · rename_i hset
    rw [setState_of_state?_ne hset]
    rfl

/-! ## The pending kinds -/

/-- A name is in `pending` just if it has a state that satisfies `isPending`. -/
theorem mem_pending_iff (h : r.states.Ordered) {name : String} :
    name ∈ r.pending ↔ ∃ state, r.state? name = some state ∧ state.isPending = true := by
  unfold pending state?
  rw [List.mem_map]
  constructor
  · intro hgiven
    obtain ⟨⟨key, state⟩, hentry, rfl⟩ := hgiven
    obtain ⟨hmem, hpending⟩ := List.mem_filter.mp hentry
    exact ⟨state, h.find?_eq_some_iff.mpr hmem, hpending⟩
  · intro hgiven
    obtain ⟨state, hstate, hpending⟩ := hgiven
    exact ⟨(name, state), List.mem_filter.mpr ⟨h.find?_eq_some_iff.mp hstate, hpending⟩, rfl⟩

theorem pending_eq_nil_iff (h : r.states.Ordered) :
    r.pending = [] ↔ ∀ name state, r.state? name = some state → state.isPending = false := by
  rw [List.eq_nil_iff_forall_not_mem]
  constructor
  · intro hnone name state hstate
    rw [Bool.eq_false_iff]
    exact fun hpending => hnone name ((mem_pending_iff h).mpr ⟨state, hstate, hpending⟩)
  · intro hall name hmem
    obtain ⟨state, hstate, hpending⟩ := (mem_pending_iff h).mp hmem
    rw [hall name state hstate] at hpending
    cases hpending

/-- The names in `pending` are strictly ordered. -/
theorem pairwise_pending (h : r.states.Ordered) : r.pending.Pairwise (· < ·) :=
  List.pairwise_map.mpr (List.Pairwise.filter _ h)

/-! ## What the gauges show -/

/-- The gauges in `m` show the states in `r`. -/
structure Shows (r : Registry) (m : Metrics) : Prop where
  /-- A name that has a state has a gauge for every state, which is 1 for its own and 0 for the
  others. A name that has no state has no gauge. -/
  gauge : ∀ name (other : SubscriptionState), m.states.find? [name, other.text]
    = (r.state? name).map fun state => if other = state then 1 else 0
  /-- No other labels are in the gauges. -/
  only : Metrics.OnlyStates m.states

/-- Looking up a gauge after `publish`: those of the kinds of the registry show `.unchecked`, the
others are as before. -/
theorem find?_publish (r : Registry) (m : Metrics) (name : String) (other : SubscriptionState) :
    (r.publish m).states.find? [name, other.text]
      = if name ∈ r.kinds.map Kind.name then some (if other = .unchecked then 1 else 0)
        else m.states.find? [name, other.text] := by
  rw [publish]
  induction r.kinds generalizing m with
  | nil => rfl
  | cons k rest ih =>
      rw [List.foldl_cons, ih, Metrics.find?_publishState]
      simp only [List.map_cons, List.mem_cons]
      grind

theorem onlyStates_publish (r : Registry) (h : Metrics.OnlyStates m.states) :
    Metrics.OnlyStates (r.publish m).states := by
  rw [publish]
  induction r.kinds generalizing m with
  | nil => exact h
  | cons k rest ih => exact ih (h.setGauges k.name .unchecked SubscriptionState.all)

/-- At the start, `publish` of the registry `ofKinds` makes the gauges show it. -/
theorem shows_ofKinds (kinds : List Kind) :
    (ofKinds kinds).Shows ((ofKinds kinds).publish .empty) where
  gauge name other := by
    have hnames : name ∈ (ofKinds kinds).kinds.map Kind.name ↔ name ∈ kinds.map Kind.name := by
      simp only [List.mem_map, mem_kinds_ofKinds]
    rw [find?_publish, state?_ofKinds_eq]
    simp only [hnames]
    split <;> rfl
  only := onlyStates_publish _ nofun

/-- Step lemma of `Shows`: it is preserved by `setState`. -/
theorem Shows.setState (h : r.Shows m) (name : String) (state : SubscriptionState) :
    (setState name state r m).1.Shows (setState name state r m).2 := by
  by_cases hset : r.state? name = some state
  · rw [setState_of_state?_eq hset]
    exact h
  · refine ⟨fun kind other => ?_, ?_⟩
    · rw [state?_setState, setState_of_state?_ne hset]
      refine (Metrics.find?_publishState m name state kind other).trans ?_
      split
      · rfl
      · exact h.gauge kind other
    · rw [setState_of_state?_ne hset]
      exact h.only.setGauges name state SubscriptionState.all

/-! ## Any number of states one after the other -/

/-- The registry and the metrics after `setState` was called with each of `sets` in turn, from
`ofKinds kinds` and empty metrics to which it was published. -/
def reached (kinds : List Kind) (sets : List (String × SubscriptionState)) : Registry × Metrics :=
  sets.foldl (fun reached s => Registry.setState s.1 s.2 reached.1 reached.2)
    (ofKinds kinds, (ofKinds kinds).publish .empty)

/-- The state that `sets` leave to a name: that of the last call for it, or `.unchecked` if it is
the name of one of `kinds`, or none. -/
def recorded (kinds : List Kind) (sets : List (String × SubscriptionState)) (name : String) :
    Option SubscriptionState :=
  match (sets.filter fun s => s.1 = name).getLast? with
  | some last => some last.2
  | none => if name ∈ kinds.map Kind.name then some .unchecked else none

theorem reached_concat (kinds : List Kind) (sets : List (String × SubscriptionState))
    (name : String) (state : SubscriptionState) :
    reached kinds (sets ++ [(name, state)])
      = Registry.setState name state (reached kinds sets).1 (reached kinds sets).2 := by
  rw [reached, List.foldl_append]
  rfl

theorem recorded_concat (kinds : List Kind) (sets : List (String × SubscriptionState))
    (name : String) (state : SubscriptionState) (other : String) :
    recorded kinds (sets ++ [(name, state)]) other
      = if name = other then some state else recorded kinds sets other := by
  unfold recorded
  rw [List.filter_append]
  by_cases hname : name = other <;> simp [hname]

theorem state?_reached (kinds : List Kind) (sets : List (String × SubscriptionState))
    (name : String) : (reached kinds sets).1.state? name = recorded kinds sets name := by
  induction sets using List.reverseRecOn with
  | nil => exact state?_ofKinds_eq kinds name
  | append_singleton sets last ih =>
      rw [reached_concat, state?_setState, recorded_concat, ih]

theorem ordered_reached (kinds : List Kind) (sets : List (String × SubscriptionState)) :
    (reached kinds sets).1.states.Ordered := by
  induction sets using List.reverseRecOn with
  | nil => exact ordered_ofKinds kinds
  | append_singleton sets last ih =>
      rw [reached_concat]
      exact ordered_setState ih ..

theorem shows_reached (kinds : List Kind) (sets : List (String × SubscriptionState)) :
    (reached kinds sets).1.Shows (reached kinds sets).2 := by
  induction sets using List.reverseRecOn with
  | nil => exact shows_ofKinds kinds
  | append_singleton sets last ih =>
      rw [reached_concat]
      exact ih.setState ..

/-- States are shown and told. After any calls of `setState`, for names of `kinds` or for others,
`state?` is what is `recorded`; the gauges show it and nothing else; the next call counts in
`changes` just if its state is not the one `recorded`; and `pending` are, in order, the names that
are `.available` or `.syncing`. -/
theorem states_shown_and_told (kinds : List Kind) (sets : List (String × SubscriptionState)) :
    (∀ name, (reached kinds sets).1.state? name = recorded kinds sets name) ∧
    (reached kinds sets).1.Shows (reached kinds sets).2 ∧
    (∀ name state, (reached kinds (sets ++ [(name, state)])).1.changes
      = if recorded kinds sets name = some state then (reached kinds sets).1.changes
        else (reached kinds sets).1.changes + 1) ∧
    (reached kinds sets).1.pending.Pairwise (· < ·) ∧
    (∀ name, name ∈ (reached kinds sets).1.pending ↔
      recorded kinds sets name = some .available ∨ recorded kinds sets name = some .syncing) := by
  refine ⟨state?_reached kinds sets, shows_reached kinds sets, fun name state => ?told,
    pairwise_pending (ordered_reached kinds sets), fun name => ?pending⟩
  case told => rw [reached_concat, changes_setState, state?_reached]
  case pending =>
    rw [mem_pending_iff (ordered_reached kinds sets), state?_reached]
    constructor
    · rintro ⟨state, hstate, hpending⟩
      cases state with
      | available => exact .inl hstate
      | syncing => exact .inr hstate
      | unchecked | synced | skipped => cases hpending
    · rintro (hstate | hstate) <;> exact ⟨_, hstate, rfl⟩

end Registry

end ClusterGraph
