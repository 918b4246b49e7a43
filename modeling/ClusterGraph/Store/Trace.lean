import ClusterGraph.Store.Memory

/-!
# ClusterGraph.Store.Trace

**A store in front of which calls are recorded, and some of them fail.**

Which calls fail is said by patterns: the name of a call, or a name and a subject with a
colon between. A call that a pattern stops never reaches the store behind.
-/

namespace ClusterGraph

/-- A call together with its `answer`. -/
structure CallRecord where
  call : Call
  answer : Except StoreError call.Answer

/-- A store that records its calls (`reversedLog`, the latest first) and refuses those that match a
pattern of `refusals`. -/
structure TracedStore where
  store : MemoryStore
  refusals : List String
  reversedLog : List CallRecord

namespace TracedStore

/-- The store `s` with an empty log, refusing nothing. -/
def ofStore (s : MemoryStore) : TracedStore :=
  ⟨s, [], []⟩

instance : Inhabited TracedStore := ⟨ofStore MemoryStore.empty⟩

/-- The calls made so far, the first one first. -/
def log (t : TracedStore) : List CallRecord :=
  t.reversedLog.reverse

/-- The same store with an empty log. -/
def withoutLog (t : TracedStore) : TracedStore :=
  { t with reversedLog := [] }

/-- Whether a pattern matches the call: either its name, or its name and its `subject`. -/
def refuses (patterns : List String) (c : Call) : Bool :=
  patterns.contains c.name || patterns.contains (c.name ++ ":" ++ c.subject)

/-- Refuse the call or let the store answer it, and record it in either case. -/
def perform : Plan.Performer TracedStore := fun c t =>
  if refuses t.refusals c then
    let answer := .error (.refused c.name)
    (answer, { t with reversedLog := ⟨c, answer⟩ :: t.reversedLog })
  else
    let (answer, store) := t.store.perform c
    (answer, { t with store, reversedLog := ⟨c, answer⟩ :: t.reversedLog })

/-- Run a plan on a store that records its calls. -/
def execute {α : Type} (plan : Plan α) (t : TracedStore) : α × TracedStore :=
  plan.run perform t

end TracedStore

end ClusterGraph
