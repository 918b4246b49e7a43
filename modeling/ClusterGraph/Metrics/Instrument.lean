import ClusterGraph.Metrics.Basic

/-!
# ClusterGraph.Metrics.Instrument

**Measured operations, and what is measured when they are nested.**

While a measured operation runs, one more session is active; when it ends, its outcome is
counted before the session is given back, and its result is handed on as it is.
-/

namespace ClusterGraph

namespace Metrics

variable {α ε : Type}

/-- Run the `body` of an operation between `acquireSession` and `releaseSession`, and record how it
ended. -/
def instrument (operation : String) (body : Metrics → Except ε α × Metrics) (m : Metrics) :
    Except ε α × Metrics :=
  let (result, m) := body m.acquireSession
  (result, (m.recordOperation operation result.isOk).releaseSession)

end Metrics

/-- An operation by its outcome: the name, whether it `succeeds`, and the operations that it makes
on the way. -/
inductive OperationTree where
  | node (operation : String) (succeeds : Bool) (inner : List OperationTree)
deriving Inhabited

/-- What was seen of an operation: whether it was `ok`, the active sessions `inside` it, the reports
of its `inner` operations, and the active sessions `after` it. -/
inductive OperationReport where
  | node (ok : Bool) (inside : Int) (inner : List OperationReport) (after : Int)

namespace OperationTree

mutual

/-- Run an operation and the ones on the way, each of them measured by `runMeasured`. -/
def run : OperationTree → Metrics → OperationReport × Metrics
  | node operation succeeds inner, m =>
      let ((ok, inside, reports), m) := runMeasured operation succeeds inner m
      (.node ok inside reports m.activeSessions, m)

/-- Run the `inner` operations of an operation between `acquireSession` and `releaseSession`. -/
def runMeasured (operation : String) (succeeds : Bool) (inner : List OperationTree)
    (m : Metrics) : (Bool × Int × List OperationReport) × Metrics :=
  let m := m.acquireSession
  let inside := m.activeSessions
  let (reports, m) := runAll inner m
  let m := (m.recordOperation operation succeeds).releaseSession
  ((succeeds, inside, reports), m)

/-- Run the operations of a forest one after the other. -/
def runAll : List OperationTree → Metrics → List OperationReport × Metrics
  | [], m => ([], m)
  | t :: rest, m =>
      let (report, m) := t.run m
      let (reports, m) := runAll rest m
      (report :: reports, m)

end

end OperationTree

end ClusterGraph
