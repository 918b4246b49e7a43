import ClusterGraph.Metrics.Instrument
import Mathlib.Data.List.Count

/-!
# ClusterGraph.Proofs.Metrics.Nesting

**However operations are nested, each one sees as many sessions as there are operations around
what it does, gives its session back, and is counted once.**

A run is told by what has ended in it, in the order of ending (`OperationTree.endedAll`): an
operation ends after those that it makes on the way. Counting does not look at sessions, and the
session that an operation holds is its own, so a run leaves the metrics as if what has ended had
only been counted (`Metrics.recordAll`).

Operations that are given by their outcomes are trees. `Routine` is the same with the work that
they do: what a body computes may depend on the results of the operations it made, and on the
number of sessions it sees. Measured or not, it comes to the same result.
-/

namespace ClusterGraph

/-! ## Counting a list of labels -/

namespace Samples

/-- The sample `before` after `n` has been added to it, where a sample that is missing stays missing
if `n` is 0. -/
def grown (before : Option Int) (n : Nat) : Option Int :=
  if n = 0 then before else some (before.getD 0 + n)

/-- Adding 1 to a sample and then `n` is adding `n + 1`. -/
theorem grown_some_add_one (before : Option Int) (n : Nat) :
    grown (some (before.getD 0 + 1)) n = grown before (n + 1) := by
  cases n with
  | zero => rfl
  | succ n =>
      simp only [grown, Nat.succ_ne_zero, if_false, Option.getD_some]
      congr 1
      omega

/-- Apply `Samples.add` to each of the labels in `all`, with the number 1. -/
def addAll (all : List (List String)) (s : Samples) : Samples :=
  all.foldl (fun s labels => s.add labels 1) s

/-- Looking up labels after `addAll`: the sample has `grown` by `List.count` of them. -/
theorem find?_addAll (all : List (List String)) (s : Samples) (labels : List String) :
    (s.addAll all).find? labels = grown (s.find? labels) (all.count labels) := by
  induction all generalizing s with
  | nil => rfl
  | cons first rest ih =>
      rw [addAll, List.foldl_cons, ← addAll, ih, find?_add]
      by_cases hfirst : first = labels
      · subst hfirst
        rw [if_pos rfl, List.count_cons_self, grown_some_add_one]
      · rw [if_neg hfirst, List.count_cons_of_ne hfirst]

end Samples

/-! ## Counting what has ended -/

/-- The texts of the two outcomes are different. -/
theorem outcomeText_injective : Function.Injective outcomeText := by
  unfold Function.Injective
  decide

namespace Metrics

/-- Count and time each operation in `ended`, by its name and its outcome, and leave the other
metrics. -/
def recordAll (m : Metrics) (ended : List (String × Bool)) : Metrics :=
  { m with
    operations := m.operations.addAll (ended.map fun e => [e.1, outcomeText e.2])
    timed := m.timed.addAll (ended.map fun e => [e.1]) }

@[simp] theorem recordAll_nil (m : Metrics) : m.recordAll [] = m :=
  rfl

theorem recordAll_append (m : Metrics) (first rest : List (String × Bool)) :
    m.recordAll (first ++ rest) = (m.recordAll first).recordAll rest := by
  simp only [recordAll, Samples.addAll, List.map_append, List.foldl_append]

/-- The metrics `after` a run are those before it, `m`, with what has `ended` counted and timed, and
nothing else changed. -/
structure Balanced (m : Metrics) (ended : List (String × Bool)) (after : Metrics) : Prop where
  /-- The gauge `activeSessions` is what it was. -/
  sessions : after.activeSessions = m.activeSessions
  /-- A sample of `operations` has `grown` by the number of pairs of its name and its outcome. -/
  operations : ∀ operation ok, after.operations.find? [operation, outcomeText ok]
    = Samples.grown (m.operations.find? [operation, outcomeText ok]) (ended.count (operation, ok))
  /-- A sample of `timed` has `grown` by the number of operations of its name, whatever their
  outcomes. -/
  timed : ∀ operation, after.timed.find? [operation]
    = Samples.grown (m.timed.find? [operation]) ((ended.map Prod.fst).count operation)
  /-- All fields but `operations` and `timed` are as they were. -/
  others : after = { m with operations := after.operations, timed := after.timed }

theorem balanced_recordAll (m : Metrics) (ended : List (String × Bool)) :
    Balanced m ended (m.recordAll ended) where
  sessions := rfl
  operations operation ok := by
    have hinjective : Function.Injective fun e : String × Bool => [e.1, outcomeText e.2] := by
      intro e e' heq
      obtain ⟨hname, hok⟩ := List.cons.inj heq
      exact Prod.ext hname (outcomeText_injective (List.cons.inj hok).1)
    rw [recordAll, Samples.find?_addAll, ← List.count_map_of_injective ended _ hinjective]
  timed operation := by
    have hinjective : Function.Injective fun name : String => [name] :=
      fun _ _ heq => (List.cons.inj heq).1
    have hnames : (ended.map fun e => [e.1]) = (ended.map Prod.fst).map fun name => [name] := by
      rw [List.map_map]
      rfl
    rw [recordAll, Samples.find?_addAll, hnames,
      ← List.count_map_of_injective (ended.map Prod.fst) _ hinjective]
  others := rfl

/-- Running `instrument` on a body whose effect is `recordAll`: the session is given back, and the
operation is recorded after what `ended` in the body. -/
theorem instrument_of_recordAll {ε α : Type} {body : Metrics → Except ε α × Metrics}
    {m : Metrics} {result : Except ε α} {ended : List (String × Bool)}
    (h : body m.acquireSession = (result, m.acquireSession.recordAll ended)) (operation : String) :
    instrument operation body m = (result, m.recordAll (ended ++ [(operation, result.isOk)])) := by
  have hgauge : m.activeSessions + 1 - 1 = m.activeSessions :=
    Int.add_sub_cancel m.activeSessions 1
  rw [instrument, h, recordAll_append]
  simp only [acquireSession, releaseSession, recordAll, recordOperation, hgauge,
    List.map_cons, List.map_nil, Samples.addAll, List.foldl_cons, List.foldl_nil]

end Metrics

/-! ## Operations that are given by their outcomes -/

namespace OperationTree

mutual

/-- The operations of a tree with their outcomes, in the order in which they end: `inner` first, and
then the `node`. -/
def ended : OperationTree → List (String × Bool)
  | node operation succeeds inner => endedAll inner ++ [(operation, succeeds)]

/-- The operations of a forest with their outcomes, tree by tree, in the order in which they end. -/
def endedAll : List OperationTree → List (String × Bool)
  | [] => []
  | t :: rest => t.ended ++ endedAll rest

end

mutual

/-- The report that is due of an operation with `around` others around it: `initial + around + 1`
sessions inside, and `initial + around` afterwards. -/
def report (initial : Int) (around : Nat) : OperationTree → OperationReport
  | node _ succeeds inner =>
      .node succeeds (initial + (around + 1 : Nat)) (reportAll initial (around + 1) inner)
        (initial + around)

/-- The reports that are due of the operations of a forest, all of them with `around` others around
them. -/
def reportAll (initial : Int) (around : Nat) : List OperationTree → List OperationReport
  | [] => []
  | t :: rest => t.report initial around :: reportAll initial around rest

end

/-- A result of which nothing is known but whether it is `.ok`. -/
def outcome (succeeds : Bool) : Except Unit Unit :=
  if succeeds then .ok () else .error ()

@[simp] theorem isOk_outcome (succeeds : Bool) : (outcome succeeds).isOk = succeeds := by
  cases succeeds <;> rfl

/-- The body of a `node`: it runs the operations `inner`, and its result is `outcome succeeds`. -/
def body (succeeds : Bool) (inner : List OperationTree) (m : Metrics) :
    Except Unit Unit × Metrics :=
  (outcome succeeds, (runAll inner m).2)

/-- Equation of `run` at a `node`, by `instrument` and `body`. -/
theorem run_node (operation : String) (succeeds : Bool) (inner : List OperationTree) (m : Metrics) :
    (node operation succeeds inner).run m =
      let after := (Metrics.instrument operation (body succeeds inner) m).2
      (.node succeeds m.acquireSession.activeSessions (runAll inner m.acquireSession).1
        after.activeSessions, after) := by
  rw [run, runMeasured]
  cases succeeds <;> rfl

mutual

/-- Running a tree with `around` operations around it gives the `report` that is due, and the
metrics after it are those before with `recordAll` of what has `ended`. -/
theorem run_eq {initial : Int} : ∀ (t : OperationTree) {around : Nat} {m : Metrics},
    m.activeSessions = initial + around →
      t.run m = (t.report initial around, m.recordAll t.ended)
  | node operation succeeds inner, around, m, h => by
      -- The depth ties the gauge to the place in the forest: what is inside stands one deeper.
      have hinside : m.acquireSession.activeSessions = initial + (around + 1 : Nat) := by
        rw [Metrics.acquireSession, h]
        push_cast
        omega
      have hinner := runAll_eq inner hinside
      have hbody : body succeeds inner m.acquireSession
          = (outcome succeeds, m.acquireSession.recordAll (endedAll inner)) := by
        rw [body, hinner]
      rw [run_node, Metrics.instrument_of_recordAll hbody, hinner, hinside, isOk_outcome, ← ended,
        report, ← h]
      rfl

theorem runAll_eq {initial : Int} : ∀ (forest : List OperationTree) {around : Nat} {m : Metrics},
    m.activeSessions = initial + around →
      runAll forest m = (reportAll initial around forest, m.recordAll (endedAll forest))
  | [], _, _, _ => by
      rw [runAll, reportAll, endedAll, Metrics.recordAll_nil]
  | t :: rest, around, m, h => by
      -- Counting leaves the sessions alone, so the rest stands at the same depth.
      have hrest : (m.recordAll t.ended).activeSessions = initial + around := h
      rw [runAll, run_eq t h, reportAll, endedAll, Metrics.recordAll_append]
      dsimp only
      rw [runAll_eq rest hrest]

end

end OperationTree

/-! ## Operations that compute -/

/-- A piece of work in the metrics. It ends with a result (`done`), reads the gauge of active
sessions (`look`), or measures another piece of work and goes on with the result of that
(`measure`). -/
inductive Routine : Type → Type → Type 1 where
  | done {ε α : Type} (result : Except ε α) : Routine ε α
  | look {ε α : Type} (next : Int → Routine ε α) : Routine ε α
  | measure {ε α δ β : Type} (operation : String) (body : Routine δ β)
      (next : Except δ β → Routine ε α) : Routine ε α

namespace Routine

/-- Run the work with metrics: a `look` reads `activeSessions`, and a `measure` is `instrument`. -/
def run {ε α : Type} : Routine ε α → Metrics → Except ε α × Metrics
  | done result, m => (result, m)
  | look next, m => (next m.activeSessions).run m
  | measure operation body next, m =>
      let (result, m) := Metrics.instrument operation body.run m
      (next result).run m

/-- The result of the work without metrics: a `look` is answered by `sessions`, and the body of a
`measure` runs with one session more. -/
def plain {ε α : Type} (sessions : Int) : Routine ε α → Except ε α
  | done result => result
  | look next => (next sessions).plain sessions
  | measure _ body next => (next (body.plain (sessions + 1))).plain sessions

/-- The operations that the work measures, as trees with their outcomes. -/
def forest {ε α : Type} (sessions : Int) : Routine ε α → List OperationTree
  | done _ => []
  | look next => (next sessions).forest sessions
  | measure operation body next =>
      let result := body.plain (sessions + 1)
      .node operation result.isOk (body.forest (sessions + 1)) :: (next result).forest sessions

/-- Running a `Routine` gives its `plain` result, and the metrics after it are those before with
`recordAll` of what ended in its `forest`. -/
theorem run_eq {ε α : Type} (p : Routine ε α) (m : Metrics) :
    p.run m = (p.plain m.activeSessions,
      m.recordAll (OperationTree.endedAll (p.forest m.activeSessions))) := by
  induction p generalizing m with
  | done result => rfl
  | look next ih => exact ih m.activeSessions m
  | measure operation body next ihBody ihNext =>
      -- The body sees its own session, and what comes next does not.
      have hbody := ihBody m.acquireSession
      rw [run, Metrics.instrument_of_recordAll hbody]
      dsimp only
      rw [ihNext, ← Metrics.recordAll_append]
      rfl

end Routine

/-- Nesting is balanced. In any forest, run on any metrics, every operation sees what `reportAll`
says, `activeSessions` is as before, and each operation is counted by its name and its outcome and
timed once. A `Routine` has its `plain` result, and leaves the metrics that its `forest` leaves. -/
theorem Metrics.nesting_balanced (forest : List OperationTree) (m : Metrics) :
    (OperationTree.runAll forest m).1 = OperationTree.reportAll m.activeSessions 0 forest ∧
    m.Balanced (OperationTree.endedAll forest) (OperationTree.runAll forest m).2 ∧
    ∀ {ε α : Type} (p : Routine ε α),
      (p.run m).1 = p.plain m.activeSessions ∧
      (p.run m).2 = (OperationTree.runAll (p.forest m.activeSessions) m).2 := by
  have hstart : m.activeSessions = m.activeSessions + (0 : Nat) := (Int.add_zero _).symm
  have hrun (forest : List OperationTree) := OperationTree.runAll_eq forest hstart
  refine ⟨?reports, ?metrics, fun p => ⟨?result, ?same⟩⟩
  case reports => rw [hrun]
  case metrics =>
    rw [hrun]
    exact Metrics.balanced_recordAll m (OperationTree.endedAll forest)
  case result => rw [p.run_eq]
  case same => rw [p.run_eq, hrun]

end ClusterGraph
