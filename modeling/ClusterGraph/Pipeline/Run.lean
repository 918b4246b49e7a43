import ClusterGraph.Pipeline.Start

/-!
# ClusterGraph.Pipeline.Run

**Runs of the pipeline: its own steps in any order, and what comes from outside between
them.**
-/

namespace ClusterGraph

/-- Action of the pipeline: one of the start, or one of consumer `i`. -/
inductive PipelineAction where
  | start (a : StartAction)
  | consumer (i : Nat) (a : ConsumerAction)
deriving DecidableEq

/-- Event that the pipeline does not bring about itself, taken in by `Pipeline.receive`. -/
inductive PipelineEvent where
  /-- The watch of `k` delivers `item`. -/
  | deliver (k : Kind) (item : StreamItem)
  /-- The watch of `k` ends. -/
  | finish (k : Kind)
  /-- The instance is cancelled. -/
  | cancel
  /-- The time for the start is up. -/
  | deadline
  /-- The clock shows `now`. -/
  | clock (now : Instant)

namespace Pipeline

variable {σ : Type}

/-- Carry out the action `a`: `actStart` for the start, `Consumer.act` for a consumer. The result is
`none` if it is not possible in this state. -/
def act (env : Environment σ) (a : PipelineAction) (p : Pipeline σ) :
    Option (PipelineOutcome σ) :=
  match a with
  | .start a => p.actStart env a
  | .consumer i a => do
      let c ← p.consumers[i]?
      let o ← c.act env a p.shared
      return ⟨{ p with consumers := p.consumers.set i o.consumer, shared := o.shared }, o.seen⟩

/-- Apply `f` to the consumer of `k`; nothing happens if there is none. -/
def updateConsumer (p : Pipeline σ) (k : Kind) (f : Consumer → Consumer) : Pipeline σ :=
  { p with consumers := p.consumers.map fun c => if c.kind = k then f c else c }

/-- Take in an event. An item that is delivered goes to the end of `arrived`, unless the watch has
`ended` or no consumer watches its kind. -/
def receive (p : Pipeline σ) : PipelineEvent → Pipeline σ
  | .deliver k item =>
      p.updateConsumer k fun c =>
        if c.ended then c else { c with arrived := c.arrived ++ [item] }
  | .finish k => p.updateConsumer k fun c => { c with ended := true }
  | .cancel => { p with shared := { p.shared with cancelled := true } }
  | .deadline => { p with expired := true }
  | .clock now => { p with shared := { p.shared with now } }

/-- Reachability, labelled with what was seen: `Steps env p seen q` says that actions of the
pipeline and events from outside, in any order and number, lead from `p` to `q`. -/
inductive Steps (env : Environment σ) :
    Pipeline σ → List Observation → Pipeline σ → Prop where
  | refl (p : Pipeline σ) : Steps env p [] p
  | act {p q : Pipeline σ} {o : PipelineOutcome σ} {seen : List Observation}
      (h : Steps env p seen q) (a : PipelineAction) (ha : q.act env a = some o) :
      Steps env p (seen ++ o.seen) o.pipeline
  | receive {p q : Pipeline σ} {seen : List Observation}
      (h : Steps env p seen q) (e : PipelineEvent) : Steps env p seen (q.receive e)

/-- Runs compose, and what is seen of the second comes after what is seen of the first. -/
theorem Steps.trans {env : Environment σ} {p q r : Pipeline σ} {seen more : List Observation}
    (first : Steps env p seen q) (second : Steps env q more r) :
    Steps env p (seen ++ more) r := by
  induction second with
  | refl => simpa using first
  | act _ a ha ih =>
      rw [← List.append_assoc]
      exact ih.act a ha
  | receive _ e ih => exact ih.receive e

/-! ### One run of many

Where it does not matter which run is taken, this one is: workers go before consumers,
consumers before the start, and each does all that it can. -/

/-- The actions of the consumer `c`, in the order in which `next?` tries them: its workers go
first. -/
def consumerActions (c : Consumer) : List ConsumerAction :=
  (List.range c.lanes.length).flatMap
      (fun i => [.lane i .finish, .lane i .call, .lane i .take, .lane i .halt])
    ++ [.send, .flush, .collect, .record, .signal, .read, .leave, .join]

/-- The actions of the start, in the order in which `next?` tries them. -/
def startActions : List StartAction :=
  [.probe, .subscribe, .look, .wake, .stop, .expire]

/-- The actions of the pipeline `p`, in the order in which `next?` tries them: its consumers go
first. -/
def actions (p : Pipeline σ) : List PipelineAction :=
  ((List.range p.consumers.length).zip p.consumers).flatMap
      (fun (i, c) => (consumerActions c).map (.consumer i))
    ++ startActions.map .start

/-- Carry out the first of `actions` that is possible; `none` if no action is. -/
def next? (env : Environment σ) (p : Pipeline σ) : Option (Pipeline σ) :=
  p.actions.findSome? fun a => (p.act env a).map PipelineOutcome.pipeline

/-- Carry out the action that `next?` picks, until there is none or `n` are done. -/
def settle (env : Environment σ) : Nat → Pipeline σ → Pipeline σ
  | 0, p => p
  | n + 1, p =>
      match p.next? env with
      | some q => settle env n q
      | none => p

/-- What `next?` does is the outcome of an action. -/
theorem exists_act_of_next? {env : Environment σ} {p q : Pipeline σ}
    (h : p.next? env = some q) : ∃ a o, p.act env a = some o ∧ o.pipeline = q := by
  obtain ⟨a, -, ha⟩ := List.exists_of_findSome?_eq_some h
  obtain ⟨o, ho, eq⟩ := Option.map_eq_some_iff.mp ha
  exact ⟨a, o, ho, eq⟩

/-- Every state that `settle` comes to is reached by a run. -/
theorem exists_steps_settle (env : Environment σ) (n : Nat) (p : Pipeline σ) :
    ∃ seen, Steps env p seen (settle env n p) := by
  induction n generalizing p with
  | zero => exact ⟨[], .refl p⟩
  | succ n ih =>
      rw [settle]
      split
      · rename_i q next
        obtain ⟨a, o, ha, rfl⟩ := exists_act_of_next? next
        obtain ⟨seen, rest⟩ := ih o.pipeline
        exact ⟨_, ((Steps.refl p).act a ha).trans rest⟩
      · exact ⟨[], .refl p⟩

end Pipeline

end ClusterGraph
