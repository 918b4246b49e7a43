import ClusterGraph.Client.Record
import ClusterGraph.Store.Plan

/-!
# ClusterGraph.Client.Exchange

**Carrying out calls by an exchange of messages with a database.**

The database is whoever answers messages, with a state of its own, so that what it does may
be anything: it may fail a message without effect, or take effect and lose the reply.

Design points:

* an upsert in a transaction is tried three times at most, and not again once it is
  acknowledged. Whatever failed, starting, writing or committing, leads to the next attempt;
* a transaction whose statement failed is rolled back and never committed, and what becomes
  of rolling it back does not matter;
* everything else is asked once.
-/

namespace ClusterGraph

/-- A message to the database. -/
inductive Message where
  /-- Begin a transaction. -/
  | begin
  /-- Run a statement in the transaction. -/
  | execute (r : Request)
  /-- Commit the transaction. -/
  | commit
  /-- Roll the transaction back. -/
  | rollback
  /-- Run a statement outside of transactions. -/
  | query (r : Request)
deriving DecidableEq

/-- A database as a function: what it answers to a message in a state, and its state after it. -/
abbrev Database (σ : Type) :=
  Message → σ → Except StoreError (List Row) × σ

namespace Database

variable {σ : Type}

/-- Run a statement in a transaction, once: `begin`, `execute`, and then `commit`, or `rollback` if
the statement failed. -/
def attempt (db : Database σ) (r : Request) (s : σ) : Except StoreError Unit × σ :=
  match db .begin s with
  | (.error e, s) => (.error e, s)
  | (.ok _, s) =>
      match db (.execute r) s with
      | (.error e, s) => (.error e, (db .rollback s).2)
      | (.ok _, s) =>
          match db .commit s with
          | (.error e, s) => (.error e, s)
          | (.ok _, s) => (.ok (), s)

/-- The number of times that a transaction is tried. -/
def mostAttempts : Nat := 3

/-- Run `attempt`, and run it again as long as it fails and `further` attempts are left. -/
def attemptUpTo (db : Database σ) (r : Request) : Nat → σ → Except StoreError Unit × σ
  | 0, s => db.attempt r s
  | further + 1, s =>
      match db.attempt r s with
      | (.ok _, s) => (.ok (), s)
      | (.error _, s) => db.attemptUpTo r further s

/-- Send the request of a call: an upsert of `.transaction` by `attemptUpTo`, every other call as a
`.query`. -/
def send (db : Database σ) (c : Call) (r : Request) (s : σ) :
    Except StoreError (List Row) × σ :=
  match c with
  | .upsert .transaction _ _ _ =>
      let (result, s) := db.attemptUpTo r (mostAttempts - 1) s
      (result.map fun _ => [], s)
  | _ => db (.query r) s

/-- Perform a call by its `request`. A call without one has its `silentAnswer`, and a failure of the
database is wrapped by `failed`. -/
def perform (db : Database σ) : Plan.Performer σ := fun c s =>
  match c.request with
  | .error e => (.error e, s)
  | .ok none => (.ok c.silentAnswer, s)
  | .ok (some r) =>
      match db.send c r s with
      | (.error e, s) => (.error (c.failed e), s)
      | (.ok rows, s) => (c.read rows, s)

/-- Send a `constraint` for every label, one after the other. A failure of the database is ignored,
but a label that is no identifier is an error. -/
def ensureConstraints (db : Database σ) : List String → σ → Except StoreError Unit × σ
  | [], s => (.ok (), s)
  | label :: rest, s =>
      match Statement.constraint label with
      | .error e => (.error (.invalidName e), s)
      | .ok text => ensureConstraints db rest (db (.query (.ofText text)) s).2

end Database

end ClusterGraph
