import ClusterGraph.Graph.Basic

/-!
# ClusterGraph.Graph.Changes

**What each operation on a graph changes, node by node and edge by edge.**

An upsert touches one node and no edge, a link touches no node, and a removal takes away
the nodes it is about and the edges at them. The numbers of the nodes are the same after
an upsert that finds its node.
-/

namespace ClusterGraph
namespace Graph

/-! ### Upserts -/

/-- If `n` is the first node that satisfies `test`, `replaceFirst` replaces its properties and
leaves the nodes `before` it and after it as they are. -/
theorem replaceFirst_append {test : Node → Bool} {before : List Node} {n : Node}
    (properties : Properties) (rest : List Node) (others : ∀ m ∈ before, test m = false)
    (found : test n = true) :
    replaceFirst test properties (before ++ n :: rest)
      = before ++ { n with properties } :: rest := by
  induction before with
  | nil => simp [replaceFirst, found]
  | cons m before ih =>
      have hm : test m = false := others m (by simp)
      have ih := ih fun m mem => others m (List.mem_cons_of_mem _ mem)
      simp [replaceFirst, hm, ih]

@[simp] theorem nodes_addNode (g : Graph) (labels : List String) (properties : Properties) :
    (g.addNode labels properties).nodes = g.nodes ++ [⟨g.nextId, labels, properties⟩] :=
  rfl

/-- If `n` is the first node that `isUpsertTarget`, the upsert replaces its properties and changes
nothing else. -/
theorem upsert_of_first {g : Graph} {labels : List String} {key : String} {value : PropertyValue}
    {before after : List Node} {n : Node} (hnodes : g.nodes = before ++ n :: after)
    (hbefore : ∀ m ∈ before, m.isUpsertTarget labels key value = false)
    (hn : n.isUpsertTarget labels key value = true) (properties : Properties) :
    g.upsert labels key value properties
      = { g with nodes := before ++ { n with properties } :: after } := by
  have hfound : g.nodes.any (·.isUpsertTarget labels key value) = true := by
    rw [hnodes, List.any_append]
    simp [hn]
  unfold upsert
  rw [if_pos hfound, hnodes, replaceFirst_append properties after hbefore hn]

/-- If no node `isUpsertTarget`, the upsert is `addNode`. -/
theorem upsert_of_missing {g : Graph} {labels : List String} {key : String}
    {value : PropertyValue} (hnone : ∀ n ∈ g.nodes, n.isUpsertTarget labels key value = false)
    (properties : Properties) :
    g.upsert labels key value properties = g.addNode labels properties := by
  have hmissing : ¬g.nodes.any (·.isUpsertTarget labels key value) = true := by
    simpa using hnone
  unfold upsert
  rw [if_neg hmissing]

/-- Case analysis of `upsert`: it writes the first node that `isUpsertTarget`, or adds one if there
is none. -/
theorem upsert_cases (g : Graph) (labels : List String) (key : String) (value : PropertyValue)
    (properties : Properties) :
    (∃ before n after, g.nodes = before ++ n :: after
        ∧ (∀ m ∈ before, m.isUpsertTarget labels key value = false)
        ∧ n.isUpsertTarget labels key value = true
        ∧ g.upsert labels key value properties
          = { g with nodes := before ++ { n with properties } :: after })
      ∨ ((∀ n ∈ g.nodes, n.isUpsertTarget labels key value = false)
        ∧ g.upsert labels key value properties = g.addNode labels properties) := by
  cases hfound : g.nodes.find? (·.isUpsertTarget labels key value) with
  | some n =>
      obtain ⟨hn, before, after, hnodes, hbefore⟩ := List.find?_eq_some_iff_append.mp hfound
      have hbefore : ∀ m ∈ before, m.isUpsertTarget labels key value = false := by
        simpa using hbefore
      exact .inl ⟨before, n, after, hnodes, hbefore, hn, upsert_of_first hnodes hbefore hn _⟩
  | none =>
      have hnone : ∀ n ∈ g.nodes, n.isUpsertTarget labels key value = false := by
        simpa using List.find?_eq_none.mp hfound
      exact .inr ⟨hnone, upsert_of_missing hnone _⟩

/-- A node of the graph after an upsert was there before, or is a target with the new properties, or
is the new node. -/
theorem mem_upsert {g : Graph} {labels : List String} {key : String} {value : PropertyValue}
    {properties : Properties} {n : Node} (hn : n ∈ (g.upsert labels key value properties).nodes) :
    n ∈ g.nodes
      ∨ (∃ m ∈ g.nodes, m.isUpsertTarget labels key value = true ∧ n = { m with properties })
      ∨ n = ⟨g.nextId, labels, properties⟩ := by
  rcases g.upsert_cases labels key value properties with
    ⟨before, m, after, hnodes, -, hm, hwritten⟩ | ⟨-, hadded⟩
  · rw [hwritten] at hn
    rw [hnodes]
    rcases List.mem_append.mp hn with hn | hn
    · exact .inl (List.mem_append_left _ hn)
    · rcases List.mem_cons.mp hn with rfl | hn
      · exact .inr (.inl ⟨m, by simp, hm, rfl⟩)
      · exact .inl (List.mem_append_right _ (List.mem_cons_of_mem _ hn))
  · rw [hadded, nodes_addNode, List.mem_append, List.mem_singleton] at hn
    exact hn.imp_right .inr

/-- After an upsert whose properties have `value` under `key`, there is a target with just these
properties. -/
theorem exists_mem_upsert_target {g : Graph} {labels : List String} {key : String}
    {value : PropertyValue} {properties : Properties} (h : properties.find? key = some value) :
    ∃ n ∈ (g.upsert labels key value properties).nodes,
      n.isUpsertTarget labels key value = true ∧ n.properties = properties := by
  have hkey : ((properties.find? key).any fun found => found.sameScalar value) = true := by
    rw [h]
    exact value.sameScalar_refl
  rcases g.upsert_cases labels key value properties with
    ⟨before, n, after, -, -, hn, hwritten⟩ | ⟨-, hadded⟩
  · have hlabels : labels.all n.hasLabel = true := (Bool.and_eq_true_iff.mp hn).1
    rw [hwritten]
    exact ⟨{ n with properties }, by simp, Bool.and_eq_true_iff.mpr ⟨hlabels, hkey⟩, rfl⟩
  · have hlabels : labels.all (Node.hasLabel ⟨g.nextId, labels, properties⟩) = true := by
      simp [Node.hasLabel]
    rw [hadded]
    exact ⟨⟨g.nextId, labels, properties⟩, by simp,
      Bool.and_eq_true_iff.mpr ⟨hlabels, hkey⟩, rfl⟩

/-- An upsert is about the nodes: with other edges it does the same to them. -/
theorem upsert_with_edges (g : Graph) (edges : List Edge) (labels : List String) (key : String)
    (value : PropertyValue) (properties : Properties) :
    ({ g with edges } : Graph).upsert labels key value properties
      = { g.upsert labels key value properties with edges } := by
  unfold upsert
  split <;> rfl

/-- Of two upserts with the same labels and key, only the second counts, if the first wrote the
value that both look for. -/
theorem upsert_upsert {g : Graph} {labels : List String} {key : String} {value : PropertyValue}
    {first : Properties} (hfirst : first.find? key = some value) (second : Properties) :
    (g.upsert labels key value first).upsert labels key value second
      = g.upsert labels key value second := by
  have hkey : ((first.find? key).any fun found => found.sameScalar value) = true := by
    rw [hfirst]
    exact value.sameScalar_refl
  rcases g.upsert_cases labels key value first with
    ⟨before, n, after, hnodes, hbefore, hn, hwritten⟩ | ⟨hnone, hadded⟩
  · have hlabels : labels.all n.hasLabel = true := (Bool.and_eq_true_iff.mp hn).1
    rw [hwritten, upsert_of_first hnodes hbefore hn]
    exact upsert_of_first (n := { n with properties := first }) rfl hbefore
      (Bool.and_eq_true_iff.mpr ⟨hlabels, hkey⟩) second
  · have hlabels : labels.all (Node.hasLabel ⟨g.nextId, labels, first⟩) = true := by
      simp [Node.hasLabel]
    rw [hadded, upsert_of_first rfl hnone (Bool.and_eq_true_iff.mpr ⟨hlabels, hkey⟩)]
    exact (upsert_of_missing hnone second).symm

/-- Two upserts of one graph that leave the same nodes wrote the same properties. -/
theorem properties_eq_of_upsert {g : Graph} {labels : List String} {key : String}
    {value : PropertyValue} {p q : Properties}
    (h : (g.upsert labels key value p).nodes = (g.upsert labels key value q).nodes) : p = q := by
  rcases g.upsert_cases labels key value p with
    ⟨before, n, after, hnodes, hbefore, hn, hwritten⟩ | ⟨hnone, hadded⟩
  · rw [hwritten, upsert_of_first hnodes hbefore hn] at h
    have hsame := (List.cons.inj (List.append_cancel_left h)).1
    exact congrArg Node.properties hsame
  · rw [hadded, upsert_of_missing hnone, nodes_addNode, nodes_addNode] at h
    have hsame := (List.cons.inj (List.append_cancel_left h)).1
    exact congrArg Node.properties hsame

/-! ### Links -/

/-- The edges of `edgesBetween` are those with the relationship `rel` from a node of `sources` to
one of `targets`. -/
theorem mem_edgesBetween {sources targets : List Node} {rel : Relationship} {e : Edge} :
    e ∈ edgesBetween sources rel targets
      ↔ e.rel = rel ∧ (∃ a ∈ sources, a.id = e.source) ∧ ∃ b ∈ targets, b.id = e.target := by
  obtain ⟨source, r, target⟩ := e
  simp only [edgesBetween, List.mem_flatMap, List.mem_map, Edge.mk.injEq]
  grind

/-- Which nodes a reference means depends on the nodes of the graph alone. -/
theorem nodesAt_congr {g h : Graph} (hnodes : h.nodes = g.nodes) (ref : NodeRef) :
    h.nodesAt ref = g.nodesAt ref := by
  unfold nodesAt nodesWhere
  rw [hnodes]

/-- The nodes that `ref` means are those that are `isMeantBy` it. -/
theorem mem_nodesAt {g : Graph} {ref : NodeRef} {n : Node} :
    n ∈ g.nodesAt ref ↔ n ∈ g.nodes ∧ n.isMeantBy ref = true := by
  simp [nodesAt, nodesWhere]

/-! ### Removals -/

/-- The nodes after `removeWhere` are those that do not satisfy `test`. -/
@[simp] theorem mem_nodes_removeWhere {g : Graph} {test : Node → Bool} {n : Node} :
    n ∈ (g.removeWhere test).nodes ↔ n ∈ g.nodes ∧ test n = false := by
  simp [removeWhere]

/-- The edges after `removeWhere` are those of which no end satisfies `test`. -/
theorem mem_edges_removeWhere {g : Graph} {test : Node → Bool} {e : Edge} :
    e ∈ (g.removeWhere test).edges
      ↔ e ∈ g.edges ∧ ∀ n ∈ g.nodes, test n = true → n.id ≠ e.source ∧ n.id ≠ e.target := by
  simp only [removeWhere, nodesWhere, List.mem_filter, Bool.and_eq_true, Bool.not_eq_true',
    List.contains_eq_mem, decide_eq_false_iff_not, List.mem_map]
  grind

/-- If no node satisfies `test`, `removeWhere` changes nothing. -/
theorem removeWhere_of_forall_not {g : Graph} {test : Node → Bool}
    (hnone : ∀ n ∈ g.nodes, test n = false) : g.removeWhere test = g := by
  have hgone : g.nodesWhere test = [] :=
    List.filter_eq_nil_iff.mpr fun n hn => by simp [hnone n hn]
  have hkept : g.nodes.filter (fun n => !test n) = g.nodes :=
    List.filter_eq_self.mpr fun n hn => by simp [hnone n hn]
  have hedges : g.edges.filter (fun _ => true) = g.edges := List.filter_eq_self.mpr fun _ _ => rfl
  unfold removeWhere
  rw [hgone, hkept]
  show { g with edges := g.edges.filter fun _ => true } = g
  rw [hedges]

/-- Removing what satisfies `first` and then what satisfies `second` is one removal, of what satisfies
either. -/
theorem removeWhere_removeWhere (g : Graph) (first second : Node → Bool) :
    (g.removeWhere first).removeWhere second = g.removeWhere fun n => first n || second n := by
  unfold removeWhere nodesWhere
  simp only [Graph.mk.injEq, List.filter_filter, true_and]
  constructor
  · refine List.filter_congr fun n _ => ?_
    rw [Bool.not_or, Bool.and_comm]
  · refine List.filter_congr fun e _ => ?_
    rw [Bool.eq_iff_iff]
    simp only [Bool.and_eq_true, Bool.not_eq_true', List.contains_eq_mem, decide_eq_false_iff_not,
      List.mem_map, List.mem_filter, Bool.or_eq_true]
    grind

/-- The nodes that `removeWhere` removes and those that it leaves are all nodes. -/
theorem countWhere_add_length_removeWhere (g : Graph) (test : Node → Bool) :
    g.countWhere test + (g.removeWhere test).nodes.length = g.nodes.length := by
  simp only [countWhere, nodesWhere, removeWhere]
  induction g.nodes with
  | nil => rfl
  | cons n rest ih =>
      cases h : test n <;> simp [h] <;> omega

/-- After `removeWhere` no node satisfies `test`. -/
@[simp] theorem countWhere_removeWhere (g : Graph) (test : Node → Bool) :
    (g.removeWhere test).countWhere test = 0 := by
  simp [countWhere, nodesWhere, removeWhere]

end Graph
end ClusterGraph
