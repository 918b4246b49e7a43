import ClusterGraph.Proofs.Graph.Contents
import ClusterGraph.Proofs.Graph.Numbering

/-!
# ClusterGraph.Proofs.Graph.Scalars

**A graph as a table under labels and scalars, and upserts as writes to the table.**

An identifier need not be a text: what counts is which scalars the database takes for one
(`ScalarKey.same`). Where nodes carry one label each and no two of a label hold one scalar
(`Graph.ScalarKeyed`), what an upsert does can be said without a search: it rewrites each node that
its key holds, and a new node comes last if there was none (`Graph.ScalarKeyed.upsertAt_eq`). Two
upserts under different keys rewrite different nodes, so either may come first; all that tells the
orders apart is which of two new nodes has the smaller number (`Graph.AlikeBelow`).
-/

namespace ClusterGraph

/-! ## Scalars -/

section

variable {v w : PropertyValue}

theorem Node.isUpsertTarget_of_sameScalar (h : v.sameScalar w = true) (n : Node)
    (labels : List String) (key : String) :
    n.isUpsertTarget labels key v = n.isUpsertTarget labels key w := by
  unfold isUpsertTarget
  congr 2
  exact funext fun x => PropertyValue.sameScalar_congr h x

/-- An upsert does the same for values that are the same scalar. -/
theorem Graph.upsert_of_sameScalar (h : v.sameScalar w = true) (g : Graph) (labels : List String)
    (key : String) (p : Properties) : g.upsert labels key v p = g.upsert labels key w p := by
  unfold upsert
  simp only [Node.isUpsertTarget_of_sameScalar h]

end

/-! ## Keys -/

/-- A label and a `uid`, which can be any scalar. -/
structure ScalarKey where
  label : String
  uid : PropertyValue

/-- The node has exactly one label. -/
def Node.IsSingle (n : Node) : Prop :=
  ∃ label, n.labels = [label]

/-- The node without its number. -/
def Node.unnumbered (n : Node) : List String × Properties :=
  (n.labels, n.properties)

namespace ScalarKey

/-- Whether the node has the label and the `uid`. -/
def holds (a : ScalarKey) (n : Node) : Bool :=
  n.isUpsertTarget [a.label] Key.uid a.uid

/-- Whether the keys have the same label and the same scalar. -/
def same (a b : ScalarKey) : Bool :=
  a.label = b.label && a.uid.sameScalar b.uid

variable {a b : ScalarKey} {n : Node} {p q : Properties} {nodes : List Node}

theorem holds_eq (a : ScalarKey) (n : Node) :
    a.holds n = (n.hasLabel a.label && (n.properties.find? Key.uid).any (·.sameScalar a.uid)) := by
  simp [holds, Node.isUpsertTarget]

theorem same_refl (a : ScalarKey) : a.same a = true := by
  simp [same, PropertyValue.sameScalar_refl]

theorem same_comm (a b : ScalarKey) : a.same b = b.same a := by
  unfold same
  rw [PropertyValue.sameScalar_comm, decide_eq_decide.mpr eq_comm]

theorem holds_of_same (h : a.same b = true) (n : Node) : a.holds n = b.holds n := by
  obtain ⟨hlabel, huid⟩ := Bool.and_eq_true_iff.mp h
  unfold holds
  rw [of_decide_eq_true hlabel, Node.isUpsertTarget_of_sameScalar huid]

theorem same_congr {c : ScalarKey} (h : b.same c = true) (a : ScalarKey) : a.same b = a.same c := by
  obtain ⟨hlabel, huid⟩ := Bool.and_eq_true_iff.mp h
  unfold same
  rw [of_decide_eq_true hlabel, PropertyValue.sameScalar_congr huid]

theorem labels_of_holds (hn : n.IsSingle) (h : a.holds n = true) : n.labels = [a.label] := by
  obtain ⟨label, hlabels⟩ := hn
  rw [holds_eq, Bool.and_eq_true] at h
  rw [(Node.hasLabel_iff_of_labels_eq hlabels).mp h.1]
  exact hlabels

/-- Keys that hold the same node are the same. -/
theorem same_of_holds (hn : n.IsSingle) (ha : a.holds n = true) (hb : b.holds n = true) :
    a.same b = true := by
  have hlabel : [a.label] = [b.label] := (labels_of_holds hn ha).symm.trans (labels_of_holds hn hb)
  rw [holds_eq, Bool.and_eq_true, Option.any_eq_true] at ha hb
  obtain ⟨-, v, hv, hav⟩ := ha
  obtain ⟨-, w, hw, hbw⟩ := hb
  cases hv.symm.trans hw
  rw [PropertyValue.sameScalar_comm] at hav
  rw [PropertyValue.sameScalar_congr hbw] at hav
  exact Bool.and_eq_true_iff.mpr ⟨decide_eq_true (List.cons.inj hlabel).1, hav⟩

theorem not_holds_of_not_same (hn : n.IsSingle) (hne : a.same b = false) (ha : a.holds n = true) :
    b.holds n = false := by
  cases hb : b.holds n with
  | false => rfl
  | true => exact absurd (same_of_holds hn ha hb) (by simp [hne])

/-- A node that is written under `a` is held by the keys that are the same as `a`. -/
theorem holds_written {id : Nat} {labels : List String} (hlabels : labels = [a.label])
    (hp : p.find? Key.uid = some a.uid) : b.holds ⟨id, labels, p⟩ = a.same b := by
  subst hlabels
  rw [holds_eq, hp, Option.any_some]
  simp [Node.hasLabel, same, eq_comm]

/-! ### Writing -/

/-- Replace the properties of `n` if `a` holds it. -/
def write (a : ScalarKey) (p : Properties) (n : Node) : Node :=
  if a.holds n then { n with properties := p } else n

/-- The node that an upsert under `a` adds, given the nodes that it found: one with the number `id`
if it found none. -/
def arriving (a : ScalarKey) (p : Properties) (id : Nat) : List Node → List Node
  | [] => [⟨id, [a.label], p⟩]
  | _ :: _ => []

theorem write_of_holds (h : a.holds n = true) (p : Properties) :
    a.write p n = { n with properties := p } :=
  if_pos h

theorem write_of_not_holds (h : a.holds n = false) (p : Properties) : a.write p n = n :=
  if_neg (by simp [h])

theorem map_write_of_not_holds (h : ∀ n ∈ nodes, a.holds n = false) (p : Properties) :
    nodes.map (a.write p) = nodes :=
  (List.map_congr_left fun n hn => write_of_not_holds (h n hn) p).trans (List.map_id' nodes)

theorem mem_arriving {id : Nat} {found : List Node} (h : n ∈ a.arriving p id found) :
    n = ⟨id, [a.label], p⟩ := by
  cases found with
  | nil => exact List.mem_singleton.mp h
  | cons => exact absurd h List.not_mem_nil

theorem length_arriving (a : ScalarKey) (p : Properties) (id : Nat) (found : List Node) :
    (a.arriving p id found).length = if found.isEmpty then 1 else 0 := by
  cases found <;> rfl

/-- But for its number, the new node does not depend on `id`. -/
theorem unnumbered_arriving (a : ScalarKey) (p : Properties) (id : Nat) (found : List Node) :
    (a.arriving p id found).map Node.unnumbered
      = if found.isEmpty then [([a.label], p)] else [] := by
  cases found <;> rfl

/-- Writing under `a` does not change which nodes `a` holds. -/
theorem holds_write (hn : n.IsSingle) (hp : p.find? Key.uid = some a.uid) :
    a.holds (a.write p n) = a.holds n := by
  cases h : a.holds n with
  | false => rw [write_of_not_holds h, h]
  | true =>
      rw [write_of_holds h, holds_written (labels_of_holds hn h) hp]
      exact a.same_refl

/-- Writing under `a` does not change which nodes another key holds. -/
theorem holds_write_of_not_same (hn : n.IsSingle) (hp : p.find? Key.uid = some a.uid)
    (hne : a.same b = false) : b.holds (a.write p n) = b.holds n := by
  cases h : a.holds n with
  | false => rw [write_of_not_holds h]
  | true =>
      rw [write_of_holds h, holds_written (labels_of_holds hn h) hp,
        not_holds_of_not_same hn hne h, hne]

/-- Writing under `a` does not change what `test` finds, if it finds no node that `a` holds. -/
theorem filter_map_write {test : Node → Bool} (hkept : ∀ n ∈ nodes, test (a.write p n) = test n)
    (hother : ∀ n ∈ nodes, test n = true → a.holds n = false) :
    (nodes.map (a.write p)).filter test = nodes.filter test := by
  rw [List.filter_map, List.filter_congr (q := test) (p := test ∘ a.write p) hkept]
  refine map_write_of_not_holds (fun n hn => ?_) p
  obtain ⟨hn, htest⟩ := List.mem_filter.mp hn
  exact hother n hn htest

/-- Writes under different keys commute, node by node. -/
theorem write_comm (hn : n.IsSingle) (hp : p.find? Key.uid = some a.uid)
    (hq : q.find? Key.uid = some b.uid) (hne : a.same b = false) :
    b.write q (a.write p n) = a.write p (b.write q n) := by
  cases ha : a.holds n with
  | true =>
      have hb : b.holds n = false := not_holds_of_not_same hn hne ha
      rw [write_of_not_holds hb,
        write_of_not_holds ((holds_write_of_not_same hn hp hne).trans hb)]
  | false =>
      have hne' : b.same a = false := (same_comm b a).trans hne
      rw [write_of_not_holds ha,
        write_of_not_holds (n := b.write q n) ((holds_write_of_not_same hn hq hne').trans ha)]

end ScalarKey

/-! ## Graphs -/

namespace Graph

/-- Invariant of graphs whose `uid`s can be any scalars: nodes have distinct numbers and one label
each, and no two nodes of a label have the same scalar as `uid`. -/
structure ScalarKeyed (g : Graph) : Prop where
  numbered : g.Numbered
  single : ∀ n ∈ g.nodes, n.IsSingle
  atMostOne : ∀ a : ScalarKey, (g.nodesWhere a.holds).length ≤ 1

/-- The properties of the nodes that `a` holds. -/
def entry (g : Graph) (a : ScalarKey) : List Properties :=
  (g.nodesWhere a.holds).map Node.properties

/-- Upsert the properties `p` under the key `a`. -/
def upsertAt (g : Graph) (a : ScalarKey) (p : Properties) : Graph :=
  g.upsert [a.label] Key.uid a.uid p

/-- Graphs with the same edges, and with the same nodes but for the numbers from `bound` on. -/
structure AlikeBelow (bound : Nat) (g h : Graph) : Prop where
  nextId : g.nextId = h.nextId
  below : ∀ id < bound, g.node? id = h.node? id
  contents : (g.nodes.map Node.unnumbered).Perm (h.nodes.map Node.unnumbered)
  entries : ∀ a : ScalarKey, g.entry a = h.entry a
  edges : g.edges = h.edges

/-- The new nodes have numbers from `bound` on, so the numbers below are those of old nodes. -/
theorem node?_of_append {g : Graph} {old new : List Node} {bound : Nat}
    (hnodes : g.nodes = old ++ new) (hnew : ∀ n ∈ new, bound ≤ n.id) {id : Nat}
    (hid : id < bound) : g.node? id = old.find? (·.id = id) := by
  have hnone : new.find? (·.id = id) = none := by
    rw [List.find?_eq_none]
    intro n hn hsame
    have hbound : bound ≤ n.id := hnew n hn
    have hsame : n.id = id := of_decide_eq_true hsame
    omega
  rw [node?, hnodes, List.find?_append, hnone, Option.or_none]

theorem scalarKeyed_empty : Graph.empty.ScalarKeyed :=
  ⟨numbered_empty, nofun, fun _ => Nat.zero_le 1⟩

namespace ScalarKeyed

variable {g : Graph} {a b : ScalarKey} {p q : Properties}

/-- In a `ScalarKeyed` graph, an upsert writes every node that `a` holds, as there is one at most,
and then comes the `arriving` node. -/
theorem upsertAt_eq (hg : g.ScalarKeyed) (a : ScalarKey) (p : Properties) :
    g.upsertAt a p
      = { nextId := g.nextId + (a.arriving p g.nextId (g.nodesWhere a.holds)).length
          nodes := g.nodes.map (a.write p) ++ a.arriving p g.nextId (g.nodesWhere a.holds)
          edges := g.edges } := by
  unfold upsertAt
  rcases g.upsert_cases [a.label] Key.uid a.uid p with
    ⟨before, m, after, hnodes, hbefore, hm, hwritten⟩ | ⟨hnone, hadded⟩
  · replace hbefore : ∀ n ∈ before, a.holds n = false := hbefore
    replace hm : a.holds m = true := hm
    -- The search stops at the first node; as the key holds no other, that is all of them.
    have hafter : ∀ n ∈ after, a.holds n = false := by
      have hone := hg.atMostOne a
      rw [nodesWhere, hnodes, List.filter_append, List.filter_cons_of_pos hm, List.length_append,
        List.length_cons] at hone
      have hlength : (after.filter a.holds).length = 0 := by omega
      simpa using List.filter_eq_nil_iff.mp (List.eq_nil_of_length_eq_zero hlength)
    have hfound : g.nodesWhere a.holds = [m] :=
      nodesWhere_eq_singleton (hg.atMostOne a) (by simp [hnodes]) hm
    have hmap : g.nodes.map (a.write p) = before ++ { m with properties := p } :: after := by
      rw [hnodes, List.map_append, List.map_cons, ScalarKey.map_write_of_not_holds hbefore,
        ScalarKey.map_write_of_not_holds hafter, ScalarKey.write_of_holds hm]
    rw [hwritten, hfound, hmap, ScalarKey.arriving, List.append_nil]
    rfl
  · replace hnone : ∀ n ∈ g.nodes, a.holds n = false := hnone
    have hfound : g.nodesWhere a.holds = [] :=
      List.filter_eq_nil_iff.mpr (by simpa using hnone)
    rw [hadded, hfound, ScalarKey.map_write_of_not_holds hnone]
    rfl

theorem nodes_upsertAt (hg : g.ScalarKeyed) (a : ScalarKey) (p : Properties) :
    (g.upsertAt a p).nodes
      = g.nodes.map (a.write p) ++ a.arriving p g.nextId (g.nodesWhere a.holds) := by
  rw [hg.upsertAt_eq]

/-! ### The table -/

/-- An upsert does not change what `test` finds, if it finds no node that `a` holds and not the new
one. -/
theorem nodesWhere_upsertAt (hg : g.ScalarKeyed) {test : Node → Bool}
    (hkept : ∀ n ∈ g.nodes, test (a.write p n) = test n)
    (hother : ∀ n ∈ g.nodes, test n = true → a.holds n = false)
    (hnew : test ⟨g.nextId, [a.label], p⟩ = false) :
    (g.upsertAt a p).nodesWhere test = g.nodesWhere test := by
  have harriving : (a.arriving p g.nextId (g.nodesWhere a.holds)).filter test = [] := by
    rw [List.filter_eq_nil_iff]
    intro n hn
    rw [ScalarKey.mem_arriving hn, hnew]
    exact Bool.false_ne_true
  unfold nodesWhere
  rw [hg.nodes_upsertAt, List.filter_append, harriving, List.append_nil,
    ScalarKey.filter_map_write hkept hother]

/-- An upsert leaves the nodes that `a` does not hold as they are. -/
theorem others_upsertAt (hg : g.ScalarKeyed) (hp : p.find? Key.uid = some a.uid) :
    (g.upsertAt a p).nodesWhere (!a.holds ·) = g.nodesWhere (!a.holds ·) := by
  refine hg.nodesWhere_upsertAt (fun n hn => ?_) (fun n _ h => ?_) ?_
  · rw [ScalarKey.holds_write (hg.single n hn) hp]
  · simpa using h
  · rw [ScalarKey.holds_written rfl hp, a.same_refl]
    rfl

/-- An upsert leaves the nodes that another key holds as they are. -/
theorem nodesWhere_upsertAt_of_not_same (hg : g.ScalarKeyed)
    (hp : p.find? Key.uid = some a.uid) (hne : a.same b = false) :
    (g.upsertAt a p).nodesWhere b.holds = g.nodesWhere b.holds := by
  have hne' : b.same a = false := (ScalarKey.same_comm b a).trans hne
  refine hg.nodesWhere_upsertAt (fun n hn => ?_) (fun n hn hb => ?_) ?_
  · exact ScalarKey.holds_write_of_not_same (hg.single n hn) hp hne
  · exact ScalarKey.not_holds_of_not_same (hg.single n hn) hne' hb
  · exact (ScalarKey.holds_written rfl hp).trans hne

/-- After an upsert, the entry of `a` is `p` alone. -/
theorem entry_upsertAt_self (hg : g.ScalarKeyed) (hp : p.find? Key.uid = some a.uid) :
    (g.upsertAt a p).entry a = [p] := by
  have hwritten : (g.nodes.map (a.write p)).filter a.holds
      = (g.nodesWhere a.holds).map (a.write p) := by
    rw [List.filter_map]
    exact congrArg _ (List.filter_congr fun n hn => ScalarKey.holds_write (hg.single n hn) hp)
  rw [entry, nodesWhere, hg.nodes_upsertAt, List.filter_append, hwritten]
  by_cases hfound : ∃ n ∈ g.nodes, a.holds n = true
  · obtain ⟨n, hn, hholds⟩ := hfound
    rw [nodesWhere_eq_singleton (hg.atMostOne a) hn hholds, List.map_singleton,
      ScalarKey.write_of_holds hholds]
    rfl
  · have hnone : g.nodesWhere a.holds = [] :=
      List.filter_eq_nil_iff.mpr fun n hn hholds => hfound ⟨n, hn, hholds⟩
    have hnew : a.holds ⟨g.nextId, [a.label], p⟩ = true :=
      (ScalarKey.holds_written rfl hp).trans a.same_refl
    rw [hnone, ScalarKey.arriving, List.filter_cons_of_pos hnew]
    rfl

/-- An upsert replaces the entries of the keys that are the same as `a`, and no other. -/
theorem entry_upsertAt (hg : g.ScalarKeyed) (hp : p.find? Key.uid = some a.uid) (b : ScalarKey) :
    (g.upsertAt a p).entry b = if a.same b then [p] else g.entry b := by
  cases h : a.same b with
  | true =>
      have hholds : b.holds = a.holds := funext fun n => (ScalarKey.holds_of_same h n).symm
      rw [if_pos rfl, entry, hholds]
      exact hg.entry_upsertAt_self hp
  | false =>
      rw [if_neg Bool.false_ne_true, entry, hg.nodesWhere_upsertAt_of_not_same hp h]
      rfl

theorem upsertAt (hg : g.ScalarKeyed) (hp : p.find? Key.uid = some a.uid) :
    (g.upsertAt a p).ScalarKeyed where
  numbered := hg.numbered.upsert _ _ _ _
  single n hn := by
    rcases mem_upsert hn with hn | ⟨m, hm, -, rfl⟩ | rfl
    · exact hg.single n hn
    · exact hg.single m hm
    · exact ⟨a.label, rfl⟩
  atMostOne b := by
    have hlength : ∀ h : Graph, (h.nodesWhere b.holds).length = (h.entry b).length :=
      fun h => (List.length_map _).symm
    rw [hlength, hg.entry_upsertAt hp]
    split
    · exact Nat.le_refl 1
    · rw [← hlength]
      exact hg.atMostOne b

/-! ### Two upserts -/

/-- The nodes after two upserts: those of before, each written by both, and then the new ones. -/
theorem nodes_upsertAt_upsertAt (hg : g.ScalarKeyed) (hp : p.find? Key.uid = some a.uid)
    (hne : a.same b = false) (q : Properties) :
    ((g.upsertAt a p).upsertAt b q).nodes
      = g.nodes.map (fun n => b.write q (a.write p n))
        ++ (a.arriving p g.nextId (g.nodesWhere a.holds)
          ++ b.arriving q (g.upsertAt a p).nextId (g.nodesWhere b.holds)) := by
  -- A node that came with the first upsert is none that the second is about.
  have hkept : (a.arriving p g.nextId (g.nodesWhere a.holds)).map (b.write q)
      = a.arriving p g.nextId (g.nodesWhere a.holds) := by
    refine ScalarKey.map_write_of_not_holds (fun n hn => ?_) q
    rw [ScalarKey.mem_arriving hn]
    exact (ScalarKey.holds_written rfl hp).trans hne
  rw [(hg.upsertAt hp).nodes_upsertAt, hg.nodesWhere_upsertAt_of_not_same hp hne, hg.nodes_upsertAt,
    List.map_append, List.map_map, hkept, List.append_assoc]
  rfl

theorem nextId_upsertAt (hg : g.ScalarKeyed) (a : ScalarKey) (p : Properties) :
    (g.upsertAt a p).nextId = g.nextId + if (g.nodesWhere a.holds).isEmpty then 1 else 0 := by
  rw [hg.upsertAt_eq, ScalarKey.length_arriving]

/-- A number below `nextId` has the node of before, written by both upserts. -/
theorem node?_upsertAt_upsertAt (hg : g.ScalarKeyed) (hp : p.find? Key.uid = some a.uid)
    (hne : a.same b = false) (q : Properties) {id : Nat} (hid : id < g.nextId) :
    ((g.upsertAt a p).upsertAt b q).node? id
      = (g.nodes.map fun n => b.write q (a.write p n)).find? (·.id = id) := by
  refine node?_of_append (hg.nodes_upsertAt_upsertAt hp hne q) (fun n hn => ?_) hid
  rcases List.mem_append.mp hn with hn | hn
  · exact Nat.le_of_eq (congrArg Node.id (ScalarKey.mem_arriving hn)).symm
  · have hid : n.id = (g.upsertAt a p).nextId := congrArg Node.id (ScalarKey.mem_arriving hn)
    rw [hid, hg.nextId_upsertAt]
    exact Nat.le_add_right _ _

/-- Two upserts under different keys lead to graphs that are `AlikeBelow` the next number, in either
order. -/
theorem upsertAt_comm (hg : g.ScalarKeyed) (hp : p.find? Key.uid = some a.uid)
    (hq : q.find? Key.uid = some b.uid) (hne : a.same b = false) :
    AlikeBelow g.nextId ((g.upsertAt a p).upsertAt b q) ((g.upsertAt b q).upsertAt a p) := by
  have hne' : b.same a = false := (ScalarKey.same_comm b a).trans hne
  have hfound := hg.nodesWhere_upsertAt_of_not_same hp hne
  have hfound' := hg.nodesWhere_upsertAt_of_not_same hq hne'
  have hold : g.nodes.map (fun n => b.write q (a.write p n))
      = g.nodes.map (fun n => a.write p (b.write q n)) :=
    List.map_congr_left fun n hn => ScalarKey.write_comm (hg.single n hn) hp hq hne
  refine ⟨?nextId, fun id hid => ?below, ?contents, fun c => ?entries, ?edges⟩
  case nextId =>
    rw [(hg.upsertAt hp).nextId_upsertAt, (hg.upsertAt hq).nextId_upsertAt, hfound, hfound',
      hg.nextId_upsertAt, hg.nextId_upsertAt]
    exact Nat.add_right_comm _ _ _
  case below =>
    rw [hg.node?_upsertAt_upsertAt hp hne q hid, hg.node?_upsertAt_upsertAt hq hne' p hid, hold]
  case contents =>
    rw [hg.nodes_upsertAt_upsertAt hp hne, hg.nodes_upsertAt_upsertAt hq hne', hold]
    simp only [List.map_append, ScalarKey.unnumbered_arriving]
    exact List.perm_append_comm.append_left _
  case entries =>
    rw [(hg.upsertAt hp).entry_upsertAt hq, (hg.upsertAt hq).entry_upsertAt hp,
      hg.entry_upsertAt hp, hg.entry_upsertAt hq]
    cases hb : b.same c with
    | false => rfl
    | true =>
        have ha : a.same c = false := (ScalarKey.same_congr hb a).symm.trans hne
        rw [ha]
        rfl
  case edges =>
    unfold Graph.upsertAt
    rw [edges_upsert, edges_upsert, edges_upsert, edges_upsert]

end ScalarKeyed
end Graph
end ClusterGraph
