import ClusterGraph.Proofs.Projection.Updating
import ClusterGraph.Proofs.Store.Unreliable

/-!
# ClusterGraph.Proofs.Projection.Rejecting

**A notification that fails leaves no trace.**

All that can be wrong with an object is found before the store is asked for anything, the first
call is the only one whose failure counts, and a call that fails leaves the graph as it was
(`UnreliableStore.perform_cases`). So a plan need not undo anything: it fails with its first call
or not at all (`Plan.FailsFirst`).

It follows that failures can be left out of a history. Whether a delivery fails is judged where it
comes (`Interspersed`), and as it changes nothing the ones after it do what they would have done
without it.
-/

namespace ClusterGraph

/-! ## Plans that fail with their first call -/

namespace Plan

variable {α β ε σ : Type}

/-- The plan ends with `a`, whatever its calls are answered. -/
inductive Yields (a : α) : Plan α → Prop where
  | done : Yields a (.done a)
  | call {c : Call} {next : Except StoreError c.Answer → Plan α}
      (h : ∀ answer, Yields a (next answer)) : Yields a (.call c next)

theorem Yields.run {a : α} {p : Plan α} (h : p.Yields a) (perform : Performer σ) (s : σ) :
    (p.run perform s).1 = a := by
  induction h generalizing s with
  | done => rfl
  | call _ ih => exact ih _ _

theorem yields_bind_done (p : Plan β) (a : α) : (p.bind fun _ => .done a).Yields a := by
  induction p with
  | done b => exact .done
  | call c next ih => exact .call ih

/-- The plan is over when its first call fails, and cannot fail any more when that succeeds. -/
def FailsFirst : Plan (Except ε Unit) → Prop
  | .done _ => True
  | .call _ next => (∀ e, ∃ result, next (.error e) = .done result)
      ∧ ∀ a, (next (.ok a)).Yields (.ok ())

/-- If a call that fails leaves the graph as it is, so does a plan that `FailsFirst` and fails. -/
theorem FailsFirst.eq_of_error {p : Plan (Except ε Unit)} (hp : p.FailsFirst)
    {perform : Performer σ} {graph : σ → Graph}
    (hperform : ∀ c s e, (perform c s).1 = .error e → graph (perform c s).2 = graph s) {s : σ}
    {e : ε} (h : (p.run perform s).1 = .error e) : graph (p.run perform s).2 = graph s := by
  cases p with
  | done result => rfl
  | call c next =>
      rw [run_call] at h ⊢
      cases hanswer : (perform c s).1 with
      | error f =>
          obtain ⟨result, hresult⟩ := hp.1 f
          rw [hresult]
          exact hperform c s f hanswer
      | ok a =>
          rw [hanswer, (hp.2 a).run] at h
          cases h

end Plan

namespace Sync

theorem failsFirst_create (w : Writer) (now : Instant) (k : Kind) (raw : RawObject) :
    (create w now k raw).FailsFirst := by
  rcases create_cases w now k raw with ⟨e, he⟩ | ⟨o, uid, -, -, -, hcall⟩
  · rw [he]
    exact trivial
  · rw [hcall]
    exact ⟨fun e => ⟨_, rfl⟩, fun _ => Plan.yields_bind_done _ _⟩

theorem failsFirst_delete (k : Kind) (raw : RawObject) : (delete k raw).FailsFirst := by
  rcases delete_cases k raw with ⟨result, hresult⟩ | ⟨-, uid, -, -, hcall⟩
  · rw [hresult]
    exact trivial
  · rw [hcall]
    exact ⟨fun e => ⟨_, rfl⟩, fun _ => .done⟩

end Sync

theorem Environment.failsFirst_followObject (w : Writer) (now : Instant) (k : Kind)
    (n : Notification) : (followObject w now k n).FailsFirst := by
  cases n with
  | add raw => exact Sync.failsFirst_create w now k raw
  | update raw => exact Sync.failsFirst_create w now k raw
  | delete raw => exact Sync.failsFirst_delete k raw
  | synced => exact trivial

/-! ## Histories -/

/-- A notification together with the store that it meets: whether it can be written, and which calls
fail. -/
structure Delivery where
  kind : Kind
  notification : Notification
  now : Instant
  writable : Bool
  failure? : Nat → Call → Option StoreError

namespace Delivery

/-- Result of following the notification of a delivery, and the graph after it. -/
def follow (w : Writer) (d : Delivery) (g : Graph) : Except SyncError Unit × Graph :=
  let (result, s) := (Environment.followObject w d.now d.kind d.notification).run
    UnreliableStore.perform (.ofStore ⟨g, d.writable, 0, 0⟩ d.failure?)
  (result, s.graph)

/-- The graph after all deliveries of `history`, one after the other. -/
def followAll (w : Writer) (history : List Delivery) (g : Graph) : Graph :=
  history.foldl (fun g d => (d.follow w g).2) g

theorem follow_of_error {w : Writer} {d : Delivery} {g : Graph} {e : SyncError}
    (h : (d.follow w g).1 = .error e) : (d.follow w g).2 = g :=
  (Environment.failsFirst_followObject w d.now d.kind d.notification).eq_of_error
    (fun _ _ _ => UnreliableStore.graph_of_error) h

end Delivery

/-- The second list is the first with further deliveries in it, each of which fails where it
comes. -/
inductive Interspersed (w : Writer) : Graph → List Delivery → List Delivery → Prop where
  | nil (g : Graph) : Interspersed w g [] []
  | given {g : Graph} {d : Delivery} {history more : List Delivery}
      (h : Interspersed w (d.follow w g).2 history more) :
      Interspersed w g (d :: history) (d :: more)
  | failed {g : Graph} {d : Delivery} {history more : List Delivery} {e : SyncError}
      (he : (d.follow w g).1 = .error e) (h : Interspersed w (d.follow w g).2 history more) :
      Interspersed w g history (d :: more)

theorem Interspersed.followAll_eq {w : Writer} {g : Graph} {history more : List Delivery}
    (h : Interspersed w g history more) :
    Delivery.followAll w more g = Delivery.followAll w history g := by
  induction h with
  | nil => rfl
  | given _ ih => exact ih
  | failed he _ ih =>
      rw [Delivery.follow_of_error he] at ih
      unfold Delivery.followAll at ih ⊢
      rw [List.foldl_cons, Delivery.follow_of_error he]
      exact ih

namespace Sync

/-- Failures leave no trace: in a store whose calls may fail, a `create` or a `delete` that ends
with an error leaves the graph as it was; a history with failed deliveries in it leaves the graph
that it leaves without them; and so does every call that fails on a store in memory. -/
theorem failures_leave_no_trace (w : Writer) :
    (∀ (now : Instant) (k : Kind) (raw : RawObject) (s : UnreliableStore) (e : SyncError),
      (((create w now k raw).run UnreliableStore.perform s).1 = .error e →
          ((create w now k raw).run UnreliableStore.perform s).2.graph = s.graph)
        ∧ (((delete k raw).run UnreliableStore.perform s).1 = .error e →
          ((delete k raw).run UnreliableStore.perform s).2.graph = s.graph))
    ∧ (∀ (g : Graph) (history more : List Delivery), Interspersed w g history more →
        Delivery.followAll w more g = Delivery.followAll w history g)
    ∧ ∀ (c : Call) (s : MemoryStore) (e : StoreError), (MemoryStore.perform c s).1 = .error e →
        (MemoryStore.perform c s).2.graph = s.graph := by
  refine ⟨fun now k raw s e => ⟨fun he => ?_, fun he => ?_⟩, fun g history more h => h.followAll_eq,
    fun c s e he => MemoryStore.graph_of_error he⟩
  · exact (failsFirst_create w now k raw).eq_of_error (fun _ _ _ => UnreliableStore.graph_of_error)
      he
  · exact (failsFirst_delete k raw).eq_of_error (fun _ _ _ => UnreliableStore.graph_of_error) he

/-- Delivery about an ingress, for which calls with a name in `refused` fail. -/
def ingressDelivery (n : Notification) (refused : List String) : Delivery :=
  ⟨.ingress, n, ⟨0, 0⟩, true,
    fun _ c => if refused.contains c.name then some (.refused c.name) else none⟩

/-- A namespace, delivered as an ingress. -/
def misplaced : RawObject :=
  .typed .namespace_ ⟨⟨some "n", none, none, none, none, none, []⟩, none⟩

/-- Instance of `failures_leave_no_trace`: a null object, one of another kind, a refused upsert, a
deletion without a `uid`, a refused deletion, and an upsert without its key. -/
theorem failures_leave_no_trace_ingress :
    Delivery.followAll shopWriter
        [ingressDelivery (.add (.unstructured .null)) [],
          ingressDelivery (.update misplaced) [],
          ingressDelivery (.add (routing ["web"])) ["upsert_node"],
          ingressDelivery (.add (routing ["web"])) [],
          ingressDelivery (.delete (.unstructured (.object Dict.empty))) [],
          ingressDelivery (.delete (routing [])) ["delete_node"]] serving.graph
      = Delivery.followAll shopWriter [ingressDelivery (.add (routing ["web"])) []] serving.graph
    ∧ (Delivery.followAll shopWriter [ingressDelivery (.add (routing ["web"])) []]
        serving.graph).edges = [⟨1, .routesTo, 0⟩]
    ∧ (MemoryStore.perform (.upsert .direct [Kind.pod.name] Dict.empty Key.uid) serving).2.graph
        = serving.graph := by
  obtain ⟨-, hhistories, hcalls⟩ := failures_leave_no_trace shopWriter
  refine ⟨hhistories _ _ _ ?_, by decide +kernel, hcalls _ _ (.missingKey Key.uid) rfl⟩
  exact .failed rfl (.failed rfl (.failed rfl (.given (.failed rfl (.failed rfl (.nil _))))))

end Sync

end ClusterGraph
