import ClusterGraph.Metrics.Basic
import ClusterGraph.Resource.Kind
import ClusterGraph.Dict

/-!
# ClusterGraph.Subscription.Registry

**The registered handlers and the states of their subscriptions.**

Design points:

* a kind is watched once, by one handler: of handlers of one kind, the first is kept
  (`Registry.keepFirst`);
* a state is also shown as a metric, and whoever waits for changes is told of each one; a
  state that is set again is no change (`Registry.setState`);
* the state of a kind that is not watched can be set all the same, and is then kept.
-/

namespace ClusterGraph

/-- A handler: the `kind` that it handles, and its `place` in the list that a registry is started
with. Two handlers of one kind are built for the same instance and do the same, so what is to be
done for an object hangs on the `kind` alone; the `place` tells which of them does it. -/
structure Handler where
  kind : Kind
  place : Nat
deriving DecidableEq

/-- A `Handler` for each of the `kinds`, at its place in the list. -/
def Handler.ofKinds (kinds : List Kind) : List Handler :=
  kinds.zipIdx.map fun (k, place) => ⟨k, place⟩

/-- The `handlers` that are kept, the `states` by the names of kinds, and the number of `changes`
of a state so far. -/
structure Registry where
  handlers : List Handler
  states : Dict SubscriptionState
  changes : Nat
deriving DecidableEq

namespace Registry

/-- The `kind` of each handler, in the order of the handlers. -/
def kinds (r : Registry) : List Kind :=
  r.handlers.map Handler.kind

/-- Keep the first handler of each `kind`, and drop the later ones. -/
def keepFirst (handlers : List Handler) : List Handler :=
  handlers.foldl
    (fun kept h => if h.kind ∈ kept.map Handler.kind then kept else kept ++ [h]) []

/-- Start with the first handler of each kind, and with every kind `unchecked`. -/
def ofHandlers (handlers : List Handler) : Registry :=
  let kept := keepFirst handlers
  ⟨kept, Dict.ofList (kept.map fun h => (h.kind.name, .unchecked)), 0⟩

/-- Start with a handler for each of the `kinds`, in which a kind may come more than once. -/
def ofKinds (kinds : List Kind) : Registry :=
  ofHandlers (Handler.ofKinds kinds)

instance : Inhabited Registry := ⟨ofKinds []⟩

/-- Show every kind as `unchecked` in the metrics, as they are at the start. -/
def publish (r : Registry) (m : Metrics) : Metrics :=
  r.kinds.foldl (fun m k => m.publishState k.name .unchecked) m

/-- The handler of the kind with a `name`. -/
def handler? (r : Registry) (name : String) : Option Handler :=
  r.handlers.find? fun h => h.kind.name = name

/-- The watched kind with a `name`. -/
def kind? (r : Registry) (name : String) : Option Kind :=
  (r.handler? name).map Handler.kind

/-- The state under the name of a kind. -/
def state? (r : Registry) (kind : String) : Option SubscriptionState :=
  r.states.find? kind

/-- Write the state of a kind into `states` and into the metrics. Those who wait for `changes` do
not know yet. -/
def record (r : Registry) (kind : String) (state : SubscriptionState) (m : Metrics) :
    Registry × Metrics :=
  ({ r with states := r.states.insert kind state }, m.publishState kind state)

/-- Count a change, by which those who wait know of it. -/
def signal (r : Registry) : Registry :=
  { r with changes := r.changes + 1 }

/-- Set the state of a kind: `record` it and `signal`. Nothing is done if the kind has that
state. -/
def setState (kind : String) (state : SubscriptionState) (r : Registry) (m : Metrics) :
    Registry × Metrics :=
  if r.state? kind = some state then (r, m)
  else
    let (r, m) := r.record kind state m
    (r.signal, m)

/-- The names of the kinds whose state satisfies `isPending`, in the order of `states`. -/
def pending (r : Registry) : List String :=
  (r.states.entries.filter fun entry => entry.2.isPending).map Prod.fst

/-- The kinds whose state satisfies `isActive`, in the order of the handlers. -/
def active (r : Registry) : List Kind :=
  r.kinds.filter fun k => (r.state? k.name).any SubscriptionState.isActive

theorem setState_of_state?_eq {kind : String} {state : SubscriptionState} {r : Registry}
    (h : r.state? kind = some state) (m : Metrics) : setState kind state r m = (r, m) := by
  simp [setState, h]

end Registry

end ClusterGraph
