import ClusterGraph.Graph.Changes
import Mathlib.Data.List.Nodup

/-!
# ClusterGraph.Proofs.Graph.Numbering

**Numbers: each node has its own, and none is used again.**

Edges name nodes by their numbers, so what a number stands for must not change. It does not: an
upsert keeps the number of the node it finds, a new node takes one above all others
(`Graph.Numbered`), and what is taken away leaves its number unused.
-/

namespace ClusterGraph
namespace Graph

/-- Nodes have distinct numbers below `nextId`. -/
structure Numbered (g : Graph) : Prop where
  distinct : (g.nodes.map Node.id).Nodup
  below : ∀ n ∈ g.nodes, n.id < g.nextId

theorem numbered_empty : Graph.empty.Numbered :=
  ⟨List.nodup_nil, nofun⟩

theorem Numbered.congr {g h : Graph} (hg : g.Numbered)
    (hids : h.nodes.map Node.id = g.nodes.map Node.id) (hnext : h.nextId = g.nextId) :
    h.Numbered := by
  refine ⟨hids ▸ hg.distinct, fun n hn => ?_⟩
  have hmem : n.id ∈ g.nodes.map Node.id := hids ▸ List.mem_map_of_mem hn
  obtain ⟨m, hm, heq⟩ := List.mem_map.mp hmem
  rw [hnext, ← heq]
  exact hg.below m hm

/-- Nodes with the same number are the same. -/
theorem Numbered.eq_of_id {g : Graph} (hg : g.Numbered) {a b : Node} (ha : a ∈ g.nodes)
    (hb : b ∈ g.nodes) (h : a.id = b.id) : a = b :=
  List.inj_on_of_nodup_map hg.distinct ha hb h

theorem Numbered.addNode {g : Graph} (hg : g.Numbered) (labels : List String)
    (properties : Properties) : (g.addNode labels properties).Numbered := by
  refine ⟨?_, fun n hn => ?_⟩
  · rw [nodes_addNode, List.map_append, List.map_singleton]
    refine List.nodup_append.mpr ⟨hg.distinct, List.nodup_singleton _, ?_⟩
    intro i hi j hj heq
    obtain ⟨n, hn, rfl⟩ := List.mem_map.mp hi
    have hbelow := hg.below n hn
    rw [heq, List.mem_singleton.mp hj] at hbelow
    exact Nat.lt_irrefl _ hbelow
  · show n.id < g.nextId + 1
    rw [nodes_addNode, List.mem_append, List.mem_singleton] at hn
    rcases hn with hn | rfl
    · exact Nat.lt_succ_of_lt (hg.below n hn)
    · exact Nat.lt_succ_self _

theorem Numbered.upsert {g : Graph} (hg : g.Numbered) (labels : List String) (key : String)
    (value : PropertyValue) (properties : Properties) :
    (g.upsert labels key value properties).Numbered := by
  rcases g.upsert_cases labels key value properties with
    ⟨before, n, after, hnodes, -, -, hwritten⟩ | ⟨-, hadded⟩
  · rw [hwritten]
    exact hg.congr (by simp [hnodes]) rfl
  · rw [hadded]
    exact hg.addNode labels properties

theorem Numbered.removeWhere {g : Graph} (hg : g.Numbered) (test : Node → Bool) :
    (g.removeWhere test).Numbered := by
  refine ⟨?_, fun n hn => hg.below n (mem_nodes_removeWhere.mp hn).1⟩
  exact hg.distinct.sublist (List.filter_sublist.map _)

/-- Both ends of every edge are there. -/
def Closed (g : Graph) : Prop :=
  ∀ e ∈ g.edges, (∃ n ∈ g.nodes, n.id = e.source) ∧ ∃ n ∈ g.nodes, n.id = e.target

end Graph
end ClusterGraph
