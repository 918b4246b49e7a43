import ClusterGraph.Client.Request

/-!
# ClusterGraph.Client.Record

**The rows that a database sends back, and how they read as answers to calls.**

Counts are read leniently: what is missing or is no integer counts as zero, and so does a
negative number of deletions. A listing, on the other hand, fails if a row has no node.
-/

namespace ClusterGraph

/-- A value in a row: `null`, a property, a node with its properties, or anything else, which
nothing reads. -/
inductive RowValue where
  | null
  | scalar (v : PropertyValue)
  | node (properties : Dict RowValue)
  | other

/-- A row: its values by the names of its columns. -/
abbrev Row := Dict RowValue

namespace RowValue

/-- The value of a `scalar`. -/
def property? : RowValue → Option PropertyValue
  | scalar v => some v
  | _ => none

/-- The integer of a `scalar`, if it is one. -/
def int? : RowValue → Option Int
  | scalar (.integer i) => some i
  | _ => none

/-- The text of a `scalar`, if it is one. -/
def text? : RowValue → Option String
  | scalar (.text s) => some s
  | _ => none

/-- The properties of a `node`, without the values that are no `property?`. -/
def properties? : RowValue → Option Properties
  | node p => some (p.filterMap property?)
  | _ => none

end RowValue

/-- The integer under `deleted` in the first row, or 0 if there is none. -/
def deletedCount (rows : List Row) : Nat :=
  (((rows.head?.bind fun row => row.find? "deleted").bind RowValue.int?).getD 0).toNat

/-- The properties of the nodes under `n` in the rows. A row without a node there is an error. -/
def listedNodes (rows : List Row) : Except StoreError (List Properties) :=
  match rows.mapM fun row => (row.find? "n").bind RowValue.properties? with
  | some nodes => .ok nodes
  | none => .error (.database none)

/-- The `kind` and the `count` in a row. -/
def kindCount (row : Row) : KindCount :=
  ⟨((row.find? "kind").bind RowValue.text?).getD "",
    ((row.find? "count").bind RowValue.int?).getD 0⟩

namespace Call

/-- The answer to a call that sends no request. -/
def silentAnswer : (c : Call) → c.Answer
  | upsert _ _ _ _ => ()
  | delete _ _ _ => ()
  | list _ _ => []
  | link _ _ _ => ()
  | sweepClusters _ => 0
  | sweepLabel _ _ => 0
  | sweepAll _ => 0
  | pruneEvents _ _ => 0
  | count _ => []
  | health => ()

/-- The answer to a call, read from the rows that came back. -/
def read : (c : Call) → List Row → Except StoreError c.Answer
  | upsert _ _ _ _, _ => .ok ()
  | delete _ _ _, _ => .ok ()
  | list _ _, rows => listedNodes rows
  | link _ _ _, _ => .ok ()
  | sweepClusters _, rows => .ok (deletedCount rows)
  | sweepLabel _ _, rows => .ok (deletedCount rows)
  | sweepAll _, rows => .ok (deletedCount rows)
  | pruneEvents _ _, rows => .ok (deletedCount rows)
  | count _, rows => .ok (rows.map kindCount)
  | health, _ => .ok ()

/-- The words that an error of the call begins with, if there are any. -/
def activity? : Call → Option String
  | upsert .direct _ _ _ => some "Node upsert failed"
  | upsert .transaction _ _ _ => some "Transactional node upsert failed"
  | delete _ _ _ => some "Node delete failed"
  | link _ _ _ => some "Relationship merge failed"
  | health => some "Neo4j is not responding to queries"
  | _ => none

/-- The error of a call that failed with `e`, under its `activity?`. -/
def failed (c : Call) (e : StoreError) : StoreError :=
  match c.activity? with
  | some activity => .during activity e
  | none => e

end Call

end ClusterGraph
