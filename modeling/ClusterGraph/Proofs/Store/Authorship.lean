import ClusterGraph.Proofs.Store.Ownership
import ClusterGraph.Proofs.Store.Unreliable

/-!
# ClusterGraph.Proofs.Store.Authorship

**A store that several parties write, and a ledger of who wrote each node last.**

A graph does not say who wrote a node: what a node says of its cluster is what its last writer
put there, and a node that was there from the start may say anything. So authors are kept beside
the graph, by the numbers of nodes (`Ledger`). A call that succeeds makes its party the author
of the node it writes (`Call.written?`), and of no other.
-/

namespace ClusterGraph

/-! ## What a call writes -/

namespace Call

/-- The number of the node that a call writes, if it is an upsert: that of the node it finds, or
`nextId`. -/
def written? : Call → Graph → Option Nat
  | upsert _ labels properties key, g =>
      ((storedProperties properties).find? key).map (g.upsertId labels key)
  | _, _ => none

end Call

namespace Graph

variable {g : Graph}

/-- Every node after an upsert whose number is not `upsertId` was there before, the same. -/
theorem mem_of_mem_upsert_of_ne {labels : List String} {key : String} {value : PropertyValue}
    {p : Properties} {n : Node} (hn : n ∈ (g.upsert labels key value p).nodes)
    (hid : n.id ≠ g.upsertId labels key value) : n ∈ g.nodes := by
  rcases g.upsert_cases labels key value p with
    ⟨before, m, after, hnodes, hbefore, htarget, hwritten⟩ | ⟨hnone, hadded⟩
  · rw [upsertId_of_first hnodes hbefore htarget] at hid
    rw [hwritten] at hn
    rw [hnodes]
    rcases List.mem_append.mp hn with hn | hn
    · exact List.mem_append_left _ hn
    · rcases List.mem_cons.mp hn with rfl | hn
      · exact absurd rfl hid
      · exact List.mem_append_right _ (List.mem_cons_of_mem _ hn)
  · rw [upsertId_of_missing hnone] at hid
    rw [hadded, nodes_addNode, List.mem_append, List.mem_singleton] at hn
    rcases hn with hn | rfl
    · exact hn
    · exact absurd rfl hid

/-- Every node after a call that does not write it (`written?`) was there before, the same. -/
theorem mem_of_mem_effect {c : Call} {n : Node} (hn : n ∈ (c.effect g).nodes)
    (hid : c.written? g ≠ some n.id) : n ∈ g.nodes := by
  rcases c.effect_cases g with
    ⟨mode, labels, properties, key, value, rfl, hvalue, heffect⟩ | ⟨test, heffect⟩
      | ⟨source, rel, target, heffect⟩ | heffect <;>
    rw [heffect] at hn
  · refine mem_of_mem_upsert_of_ne hn fun heq => hid ?_
    rw [Call.written?, hvalue, heq]
    rfl
  · exact (mem_nodes_removeWhere.mp hn).1
  · exact hn
  · exact hn

/-- The effect of a call keeps a graph `Numbered`. -/
theorem Numbered.effect (hg : g.Numbered) (c : Call) : (c.effect g).Numbered := by
  rcases c.effect_cases g with
    ⟨mode, labels, properties, key, value, -, -, heffect⟩ | ⟨test, heffect⟩
      | ⟨source, rel, target, heffect⟩ | heffect <;>
    rw [heffect]
  · exact hg.upsert _ _ _ _
  · exact hg.removeWhere test
  · exact hg.congr rfl rfl
  · exact hg

end Graph

/-! ## Ledgers -/

/-- A store together with the `author` of each node: the party that wrote the node with this number
last. -/
structure Ledger (ι : Type) where
  store : UnreliableStore
  author : Nat → Option ι

namespace Ledger

variable {ι : Type}

/-- The ledger of `store` before anyone has written to it. -/
def ofStore (store : UnreliableStore) : Ledger ι :=
  ⟨store, fun _ => none⟩

/-- The graph of the store. -/
def graph (l : Ledger ι) : Graph :=
  l.store.graph

/-- The authors after the call `c` of party `i` has succeeded. -/
def authors (i : ι) (c : Call) (l : Ledger ι) (n : Nat) : Option ι :=
  if c.written? l.graph = some n then some i else l.author n

/-- Answer a call of party `i`, and make `i` the author of what it wrote if it succeeded. -/
def performBy (i : ι) : Plan.Performer (Ledger ι) := fun c l =>
  let (answer, store) := l.store.perform c
  (answer, ⟨store, if answer.isOk then l.authors i c else l.author⟩)

/-- Case analysis of `performBy`: the call has no effect and authors stay as they are, or it has its
effect and `authors` notes it. -/
theorem performBy_cases (i : ι) (c : Call) (l : Ledger ι) :
    ((performBy i c l).2.graph = l.graph ∧ (performBy i c l).2.author = l.author)
      ∨ ((performBy i c l).2.graph = c.effect l.graph
        ∧ (performBy i c l).2.author = l.authors i c) := by
  rcases l.store.perform_cases c with ⟨⟨e, hanswer⟩, hgraph⟩ | ⟨⟨a, hanswer⟩, hgraph⟩
  · refine .inl ⟨hgraph, ?_⟩
    simp only [performBy, hanswer]
    rfl
  · refine .inr ⟨hgraph, ?_⟩
    simp only [performBy, hanswer]
    rfl

end Ledger

end ClusterGraph
