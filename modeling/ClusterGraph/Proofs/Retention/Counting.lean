import ClusterGraph.Proofs.Retention.Sweeping
import Mathlib.Algebra.Order.Ring.Int

/-!
# ClusterGraph.Proofs.Retention.Counting

**An instance counts each of its nodes once, under the first of its labels, and once it has swept
there are no others.**

A count by kinds is a tally of first labels, so the numbers are those of the nodes and add up to
how many there are (`Dict.find?_tally_empty`, `Dict.total_tally`). What is counted are the nodes of
the cluster that the instance wrote, or none in particular. What a sweep takes away are those that
another instance wrote, except for events. So after a sweep that gets to its end nothing but events
of others can be missing from the count, whatever failed on the way.
-/

namespace ClusterGraph

/-! ## Tallies -/

namespace Dict

variable {d : Dict Nat} {key : String}

/-- The sum of the values of `d`. -/
def total (d : Dict Nat) : Nat :=
  (d.entries.map Prod.snd).sum

/-- Add 1 under each of the texts `xs`, where a key that is missing counts as 0. -/
def tally (xs : List String) (d : Dict Nat) : Dict Nat :=
  xs.foldl (fun counts x => counts.insert x ((counts.find? x).getD 0 + 1)) d

theorem Ordered.find?_eq_none_of_lt {k : String} {n : Nat} {rest : List (String × Nat)}
    (h : Ordered ⟨(k, n) :: rest⟩) (hlt : key < k) : find? ⟨(k, n) :: rest⟩ key = none := by
  refine Option.eq_none_iff_forall_ne_some.mpr fun m hfound => ?_
  rcases List.mem_cons.mp (h.find?_eq_some_iff.mp hfound) with heq | hmem
  · obtain ⟨rfl, -⟩ := Prod.mk.inj heq
    exact String.lt_irrefl _ hlt
  · exact String.lt_irrefl _ (String.lt_trans hlt ((List.pairwise_cons.mp h).1 _ hmem))

/-- Counting `insert` into `total`: the value that was under `key` goes out, and `n` comes in. -/
theorem Ordered.total_insert (h : d.Ordered) (key : String) (n : Nat) :
    (d.insert key n).total + (d.find? key).getD 0 = d.total + n := by
  obtain ⟨entries⟩ := d
  unfold total Dict.insert
  induction entries with
  | nil => simp [insertEntry, find?]
  | cons first rest ih =>
      obtain ⟨k, m⟩ := first
      have hrest : Ordered ⟨rest⟩ := (List.pairwise_cons.mp h).2
      simp only at ih ⊢
      rw [insertEntry]
      split
      · rename_i hlt
        rw [h.find?_eq_none_of_lt hlt]
        simp
        omega
      · split
        · rename_i heq
          rw [find?_cons, if_pos heq.symm]
          simp
          omega
        · rename_i hne
          have hsum := ih hrest
          rw [find?_cons, if_neg (Ne.symm hne)]
          simp only [List.map_cons, List.sum_cons]
          omega

theorem Ordered.tally (h : d.Ordered) (xs : List String) : (d.tally xs).Ordered := by
  induction xs generalizing d with
  | nil => exact h
  | cons x rest ih => exact ih (h.insert x _)

/-- Looking up a key after `tally`: a text that is in `xs` has its old number plus `List.count` of
it. -/
theorem find?_tally (xs : List String) (d : Dict Nat) (key : String) :
    (d.tally xs).find? key
      = if key ∈ xs then some ((d.find? key).getD 0 + xs.count key) else d.find? key := by
  induction xs generalizing d with
  | nil => rfl
  | cons x rest ih =>
      show ((d.insert x _).tally rest).find? key = _
      rw [ih, find?_insert, List.count_cons]
      by_cases hx : x = key
      · subst hx
        by_cases hmem : x ∈ rest
        · simp [hmem]
          omega
        · simp [hmem, List.count_eq_zero.mpr hmem]
      · have hother : key ≠ x := Ne.symm hx
        simp [hx, hother]

theorem find?_tally_empty {xs : List String} {key : String} {n : Nat} :
    (empty.tally xs).find? key = some n ↔ 0 < n ∧ n = xs.count key := by
  have hempty : find? (empty : Dict Nat) key = none := rfl
  rw [find?_tally, hempty]
  by_cases hmem : key ∈ xs
  · have hpos := List.count_pos_iff.mpr hmem
    rw [if_pos hmem, Option.some.injEq, Option.getD_none, Nat.zero_add]
    omega
  · have hzero := List.count_eq_zero.mpr hmem
    rw [if_neg hmem]
    simp
    omega

/-- Each text of `tally` adds 1 to `total`. -/
theorem Ordered.total_tally (h : d.Ordered) (xs : List String) :
    (d.tally xs).total = d.total + xs.length := by
  induction xs generalizing d with
  | nil => rfl
  | cons x rest ih =>
      have hinsert := h.total_insert x ((d.find? x).getD 0 + 1)
      show ((d.insert x _).tally rest).total = _
      rw [ih (h.insert x _), List.length_cons]
      omega

end Dict

/-! ## Counts of a graph -/

/-- The node counts for the instance `id` under `kind`: that is its first label, its `clusterName`
is that of `id`, and its `instanceHash` is that of `id` or is no text. -/
structure Node.CountsAs (n : Node) (id : Identity) (kind : String) : Prop where
  kind : n.labels.head? = some kind
  cluster : n.text? Key.clusterName = some id.cluster
  hash : n.text? Key.instanceHash = some id.hash ∨ n.text? Key.instanceHash = none

instance (n : Node) (id : Identity) (kind : String) : Decidable (n.CountsAs id kind) :=
  decidable_of_iff (n.labels.head? = some kind ∧ n.text? Key.clusterName = some id.cluster
      ∧ (n.text? Key.instanceHash = some id.hash ∨ n.text? Key.instanceHash = none))
    ⟨fun h => ⟨h.1, h.2.1, h.2.2⟩, fun h => ⟨h.kind, h.cluster, h.hash⟩⟩

/-- Whether the node has a label and the `clusterName` given, whatever its `instanceHash`. -/
def Node.isLabelledOf (n : Node) (cluster : String) : Bool :=
  !n.labels.isEmpty && n.holdsText Key.clusterName cluster

theorem Node.countsAs_iff {n : Node} {id : Identity} {kind : String} :
    n.CountsAs id kind ↔ n.labels.head? = some kind ∧ n.isOfInstance id = true := by
  unfold isOfInstance holdsText
  constructor
  · intro h
    refine ⟨h.kind, ?_⟩
    rcases h.hash with hhash | hhash <;> simp [h.cluster, hhash]
  · intro h
    obtain ⟨hkind, hinstance⟩ := h
    rw [Bool.and_eq_true, decide_eq_true_eq] at hinstance
    refine ⟨hkind, hinstance.1, ?_⟩
    cases hhash : n.text? Key.instanceHash with
    | none => exact .inr rfl
    | some hash =>
        have hsame := hinstance.2
        rw [hhash] at hsame
        exact .inl (congrArg some (of_decide_eq_true hsame))

namespace Graph

variable {g : Graph} {id : Identity}

/-- The first labels of the nodes that satisfy `isOfInstance`, in the order of the graph. -/
def kindsOf (g : Graph) (id : Identity) : List String :=
  (g.nodesWhere (·.isOfInstance id)).filterMap fun n => n.labels.head?

theorem countsByKind_eq (g : Graph) (id : Identity) :
    g.countsByKind id = Dict.empty.tally (g.kindsOf id) :=
  rfl

theorem count_kindsOf (g : Graph) (id : Identity) (kind : String) :
    (g.kindsOf id).count kind = g.countWhere fun n => decide (n.CountsAs id kind) := by
  unfold kindsOf nodesWhere countWhere nodesWhere
  rw [List.count, List.countP_filterMap, List.countP_filter, ← List.countP_eq_length_filter]
  refine List.countP_congr fun n _ => ?_
  rw [Bool.and_eq_true, decide_eq_true_eq, Node.countsAs_iff]
  cases n.labels.head? <;> simp

theorem length_kindsOf (g : Graph) (id : Identity) :
    (g.kindsOf id).length = g.countWhere fun n => !n.labels.isEmpty && n.isOfInstance id := by
  unfold kindsOf nodesWhere countWhere nodesWhere
  rw [List.length_filterMap_eq_countP, List.countP_filter, ← List.countP_eq_length_filter]
  refine List.countP_congr fun n _ => ?_
  cases n.labels <;> simp

/-- In a graph that is `Swept`, and where no event has an `instanceHash`, every node of the cluster
satisfies `isOfInstance`. -/
theorem Swept.isOfInstance (hswept : g.Swept id)
    (hevents : ∀ n ∈ g.nodes, n.hasLabel Label.event = true → n.text? Key.instanceHash = none)
    {n : Node} (hn : n ∈ g.nodes) (hcluster : n.holdsText Key.clusterName id.cluster = true) :
    n.isOfInstance id = true := by
  unfold Node.isOfInstance
  rw [hcluster, Bool.true_and]
  cases hevent : n.hasLabel Label.event with
  | true => rw [hevents n hn hevent]; rfl
  | false =>
      have hstale := hswept n hn hevent
      unfold Node.isStale at hstale
      rw [hcluster, Bool.true_and] at hstale
      cases hhash : n.text? Key.instanceHash with
      | none => rfl
      | some hash => simpa [hhash] using hstale

end Graph

/-! ## Counts of a store -/

namespace MemoryStore

/-- Running `perform` on a `.count` answers with `counts` and leaves the store as it is. -/
theorem perform_count (s : MemoryStore) (id : Identity) :
    perform (.count id) s = (.ok (s.counts id), s) :=
  rfl

theorem pairwise_counts (s : MemoryStore) (id : Identity) :
    (s.counts id).Pairwise (·.kind < ·.kind) :=
  List.pairwise_map.mpr (Dict.ordered_empty.tally (s.graph.kindsOf id))

theorem mem_counts {s : MemoryStore} {id : Identity} {kind : String} {n : Int} :
    ⟨kind, n⟩ ∈ s.counts id
      ↔ 0 < n ∧ n = s.graph.countWhere fun node => decide (node.CountsAs id kind) := by
  have hordered := Dict.ordered_empty.tally (s.graph.kindsOf id)
  unfold counts
  rw [Graph.countsByKind_eq, ← Graph.count_kindsOf, List.mem_map]
  constructor
  · intro h
    obtain ⟨⟨kind', m⟩, hmem, heq⟩ := h
    obtain ⟨rfl, rfl⟩ := KindCount.mk.inj heq
    obtain ⟨hpos, rfl⟩ := Dict.find?_tally_empty.mp (hordered.find?_eq_some_iff.mpr hmem)
    exact ⟨Int.ofNat_lt.mpr hpos, rfl⟩
  · intro h
    obtain ⟨hpos, rfl⟩ := h
    have hfound := Dict.find?_tally_empty.mpr ⟨Int.ofNat_lt.mp hpos, rfl⟩
    exact ⟨_, hordered.find?_eq_some_iff.mp hfound, rfl⟩

/-- The counts add up to the number of nodes that have a label and satisfy `isOfInstance`. -/
theorem sum_counts (s : MemoryStore) (id : Identity) :
    ((s.counts id).map KindCount.count).sum
      = s.graph.countWhere fun n => !n.labels.isEmpty && n.isOfInstance id := by
  have htotal := Dict.ordered_empty.total_tally (s.graph.kindsOf id)
  rw [Graph.length_kindsOf] at htotal
  unfold counts
  rw [Graph.countsByKind_eq, List.map_map]
  generalize Dict.empty.tally _ = d at htotal
  have hcast : ∀ entries : List (String × Nat),
      (entries.map (KindCount.count ∘ fun entry => ⟨entry.1, entry.2⟩)).sum
        = ((entries.map Prod.snd).sum : Nat) := by
    intro entries
    induction entries with
    | nil => rfl
    | cons entry rest ih => simp [ih]
  rw [hcast]
  exact congrArg Nat.cast (htotal.trans (Nat.zero_add _))

end MemoryStore

namespace Retention

/-- A `sweep` that ends with `.ok` got through `.sweepAll`, so it leaves the graph `Swept`. -/
theorem swept_of_run_sweep {id : Identity} {kinds : List String} {s s' : UnreliableStore}
    {report : SweepReport}
    (h : (sweep id kinds).run UnreliableStore.perform s = (.ok report, s')) :
    s'.graph.Swept id := by
  unfold sweep at h
  rw [Plan.run_call] at h
  split at h
  · cases h
  · rw [Plan.run_bind, Plan.run_call] at h
    generalize ((sweepKinds id kinds).run UnreliableStore.perform _).2 = t at h
    split at h
    · cases h
    · rename_i hanswer
      obtain rfl := (Prod.mk.inj h).2
      rcases UnreliableStore.perform_cases (.sweepAll id) t with ⟨⟨e, he⟩, -⟩ | ⟨-, hgraph⟩
      · cases he.symm.trans hanswer
      · intro n hn hevent
        rw [hgraph] at hn
        have htest := (Graph.mem_nodes_removeWhere.mp hn).2
        rwa [hevent, Bool.not_false, Bool.true_and] at htest

end Retention

namespace Shared

/-- In any store, the answer to a `.count` is strictly ordered by kind and says `n` of a kind just
if `n` is positive and the number of nodes that `CountsAs` counts under it. After a `sweep` that
ends with `.ok`, whatever `kinds` it was given and whichever of their stages failed, the counts add
up to the nodes that satisfy `isLabelledOf`, provided that no event has an `instanceHash`. -/
theorem counts_account (s : Shared UnreliableStore) (id : Identity) (kinds : List String) :
    (∀ store : MemoryStore, ∃ counts, MemoryStore.perform (.count id) store = (.ok counts, store)
      ∧ counts.Pairwise (·.kind < ·.kind)
      ∧ ∀ (kind : String) (n : Int), ⟨kind, n⟩ ∈ counts
        ↔ 0 < n ∧ n = store.graph.countWhere fun node => decide (node.CountsAs id kind))
    ∧ (let left := (s.sweep UnreliableStore.perform id kinds).2.store.store
      ∀ report, (s.sweep UnreliableStore.perform id kinds).1 = .ok report →
        (∀ n ∈ left.graph.nodes, n.hasLabel Label.event = true → n.text? Key.instanceHash = none) →
        ∃ counts, MemoryStore.perform (.count id) left = (.ok counts, left)
          ∧ (counts.map KindCount.count).sum
            = left.graph.countWhere (·.isLabelledOf id.cluster)) := by
  constructor
  · intro store
    exact ⟨_, store.perform_count id, store.pairwise_counts id, fun _ _ => MemoryStore.mem_counts⟩
  · intro left report hreport hevents
    have hswept : left.graph.Swept id := Retention.swept_of_run_sweep (Prod.ext hreport rfl)
    refine ⟨_, left.perform_count id, (left.sum_counts id).trans (congrArg Nat.cast ?_)⟩
    refine congrArg List.length (List.filter_congr fun n hn => ?_)
    unfold Node.isLabelledOf
    cases hcluster : n.holdsText Key.clusterName id.cluster with
    | true => rw [hswept.isOfInstance hevents hn hcluster]
    | false => simp [Node.isOfInstance, hcluster]

/-- The graph that the instance `new` of the cluster `shop` finds: the `Cluster` node and a pod of
`old`, a pod of its own, an event, a node whose `instanceHash` is no text, a node without a label,
and a pod of the cluster `bank`. -/
def takenOver : Graph :=
  let of (cluster : String) (rest : List (String × PropertyValue)) : Properties :=
    Dict.ofList ((Key.clusterName, .text cluster) :: rest)
  ⟨7, [⟨0, [Label.cluster], of "shop" [(Key.name, .text "shop"), (Key.instanceHash, .text "old")]⟩,
      ⟨1, ["Pod"], of "shop" [(Key.instanceHash, .text "old")]⟩,
      ⟨2, ["Pod", "Gadget"], of "shop" [(Key.instanceHash, .text "new")]⟩,
      ⟨3, [Label.event], of "shop" []⟩,
      ⟨4, ["Gadget"], of "shop" [(Key.instanceHash, .integer 7)]⟩,
      ⟨5, [], of "shop" []⟩,
      ⟨6, ["Pod"], of "bank" [(Key.instanceHash, .text "old")]⟩],
    []⟩

/-- Instance of `counts_account`: the stage of `Pod` fails, the sweep ends with `.ok`, and the
counts add up to 3. -/
theorem counts_account_takenOver :
    let s : Shared UnreliableStore := { failingOnce with
      store := { failingOnce.store with store := .ofGraph takenOver } }
    let left := (s.sweep UnreliableStore.perform ⟨"shop", "new"⟩ ["Pod", "Event"]).2.store.store
    (s.sweep UnreliableStore.perform ⟨"shop", "new"⟩ ["Pod", "Event"]).1 = .ok ⟨1, 0, 1⟩
      ∧ left.graph.nodes = takenOver.nodes.drop 2
      ∧ ∃ counts, MemoryStore.perform (.count ⟨"shop", "new"⟩) left = (.ok counts, left)
        ∧ (counts.map KindCount.count).sum = 3 := by
  intro s left
  have hreport : (s.sweep UnreliableStore.perform ⟨"shop", "new"⟩ ["Pod", "Event"]).1
      = .ok ⟨1, 0, 1⟩ := by
    decide +kernel
  have hleft : left.graph.nodes = takenOver.nodes.drop 2 := by
    decide +kernel
  have hevents : ∀ n ∈ left.graph.nodes,
      n.hasLabel Label.event = true → n.text? Key.instanceHash = none := by
    rw [hleft]
    decide
  obtain ⟨counts, hcounts, hsum⟩ :=
    (counts_account s ⟨"shop", "new"⟩ ["Pod", "Event"]).2 _ hreport hevents
  refine ⟨hreport, hleft, counts, hcounts, hsum.trans ?_⟩
  unfold Graph.countWhere Graph.nodesWhere
  rw [hleft]
  decide

end Shared
end ClusterGraph
