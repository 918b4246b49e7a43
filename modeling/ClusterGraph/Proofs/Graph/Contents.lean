import ClusterGraph.Dict.Order
import ClusterGraph.Graph.Changes

/-!
# ClusterGraph.Proofs.Graph.Contents

**A graph as a table: what stands under each label and unique identifier, whatever the
numbers of the nodes.**

Numbers depend on the order in which nodes came, so two runs that handle the same objects in
different orders are compared by their tables (`Graph.propertiesAt`). Where nodes of a label
carry no other and share no identifier (`Graph.KeyedAt`), an upsert sets one entry of the
table, a deletion clears one, and a link changes none. Tables that agree everywhere belong
to graphs with the same nodes, numbers aside (`Graph.perm_contents`).
-/

namespace ClusterGraph

/-! ## Keys -/

/-- What identifies the node of an object: its labels, and its `uid` if that is a text. -/
structure NodeKey where
  labels : List String
  uid : Option String
deriving DecidableEq

def NodeKey.ofObject (label uid : String) : NodeKey :=
  ⟨[label], some uid⟩

theorem NodeKey.ofObject_inj {label label' uid uid' : String} :
    NodeKey.ofObject label uid = .ofObject label' uid' ↔ label = label' ∧ uid = uid' := by
  simp [NodeKey.ofObject]

namespace Node

/-- The key of a node. -/
def key (n : Node) : NodeKey :=
  ⟨n.labels, n.text? Key.uid⟩

/-- The properties of a node with `labels`, without the `createdAt` of an event. -/
def lasting (labels : List String) (p : Properties) : Properties :=
  if labels.contains Label.event then p.erase Key.createdAt else p

/-- The labels of a node and its `lasting` properties: all but its number and the time at which it
was recorded. -/
def content (n : Node) : List String × Properties :=
  (n.labels, lasting n.labels n.properties)

/-- Under every key but `createdAt`, `lasting` properties hold what the properties hold. -/
theorem find?_lasting (labels : List String) (p : Properties) {key : String}
    (hkey : key ≠ Key.createdAt) : (lasting labels p).find? key = p.find? key := by
  unfold lasting
  split
  · rw [Dict.find?_erase, if_neg (Ne.symm hkey)]
  · rfl

/-- In particular they hold the `uid`. -/
theorem find?_uid_lasting (labels : List String) (p : Properties) :
    (lasting labels p).find? Key.uid = p.find? Key.uid :=
  find?_lasting labels p (by decide)

/-- Nodes with the same content hold the same under every key but `createdAt`. -/
theorem find?_of_content {n m : Node} (h : n.content = m.content) {key : String}
    (hkey : key ≠ Key.createdAt) : n.properties.find? key = m.properties.find? key := by
  rw [← find?_lasting n.labels n.properties hkey, ← find?_lasting m.labels m.properties hkey]
  exact congrArg (fun c => Dict.find? c.2 key) h

theorem labels_of_content {n m : Node} (h : n.content = m.content) : n.labels = m.labels :=
  congrArg Prod.fst h

theorem holdsText_of_content {n m : Node} (h : n.content = m.content) {key : String}
    (hkey : key ≠ Key.createdAt) (value : String) :
    n.holdsText key value = m.holdsText key value := by
  unfold holdsText text?
  rw [find?_of_content h hkey]

theorem key_of_content {n m : Node} (h : n.content = m.content) : n.key = m.key := by
  unfold key text?
  rw [labels_of_content h, find?_of_content h (by decide)]

/-- Nodes with the same content are meant by the same references, but for those that ask for
`createdAt`. -/
theorem isMeantBy_of_content {n m : Node} (h : n.content = m.content) {ref : NodeRef}
    (hkey : ref.key ≠ Key.createdAt) : n.isMeantBy ref = m.isMeantBy ref := by
  unfold isMeantBy hasLabel
  rw [labels_of_content h, holdsText_of_content h hkey]
  cases ref.cluster with
  | none => rfl
  | some cluster =>
      rw [Option.all_some, Option.all_some, holdsText_of_content h (by decide)]

theorem isUpsertTarget_uid {n : Node} {label uid : String} :
    n.isUpsertTarget [label] Key.uid (.text uid) = true
      ↔ n.hasLabel label = true ∧ n.text? Key.uid = some uid := by
  simp only [isUpsertTarget, text?, List.all_cons, List.all_nil, Bool.and_true, Bool.and_eq_true]
  refine and_congr_right fun _ => ?_
  cases n.properties.find? Key.uid with
  | none => simp
  | some v => cases v <;> simp [PropertyValue.sameScalar, PropertyValue.text?]

theorem isMeantBy_uid {n : Node} {label uid : String} :
    n.isMeantBy ⟨label, Key.uid, uid, none⟩ = true
      ↔ n.hasLabel label = true ∧ n.text? Key.uid = some uid := by
  simp [isMeantBy, holdsText]

theorem hasLabel_iff_of_labels_eq {n : Node} {label other : String} (h : n.labels = [label]) :
    n.hasLabel other = true ↔ other = label := by
  simp [hasLabel, h]

theorem hasLabel_of_labels_eq {n : Node} {label : String} (h : n.labels = [label]) :
    n.hasLabel label = true :=
  (hasLabel_iff_of_labels_eq h).mpr rfl

end Node

namespace Graph

/-! ## Tests that one node passes -/

theorem nodesWhere_eq_singleton {g : Graph} {test : Node → Bool}
    (hone : (g.nodesWhere test).length ≤ 1) {n : Node} (hn : n ∈ g.nodes) (htest : test n = true) :
    g.nodesWhere test = [n] := by
  have hmem : n ∈ g.nodesWhere test := List.mem_filter.mpr ⟨hn, htest⟩
  obtain ⟨only, honly⟩ :=
    List.length_eq_one_iff.mp (Nat.le_antisymm hone (List.length_pos_of_mem hmem))
  rw [honly, List.mem_singleton] at hmem
  rw [honly, hmem]

/-- If at most one node satisfies `test`, any two nodes that do are the same. -/
theorem eq_of_nodesWhere {g : Graph} {test : Node → Bool}
    (hone : (g.nodesWhere test).length ≤ 1) {n m : Node} (hn : n ∈ g.nodes) (hm : m ∈ g.nodes)
    (hntest : test n = true) (hmtest : test m = true) : n = m := by
  have heq : [n] = [m] := (nodesWhere_eq_singleton hone hn hntest).symm.trans
    (nodesWhere_eq_singleton hone hm hmtest)
  exact (List.cons.inj heq).1

/-! ## The table -/

/-- The properties of the nodes with the key `κ`, in their order. -/
def propertiesAt (g : Graph) (κ : NodeKey) : List Properties :=
  (g.nodesWhere (·.key = κ)).map Node.properties

theorem mem_propertiesAt {g : Graph} {n : Node} (hn : n ∈ g.nodes) :
    n.properties ∈ g.propertiesAt n.key :=
  List.mem_map_of_mem (List.mem_filter.mpr ⟨hn, decide_eq_true rfl⟩)

theorem propertiesAt_of_unlabelled {g : Graph} {label : String}
    (h : ∀ n ∈ g.nodes, n.hasLabel label = false) (uid : Option String) :
    g.propertiesAt ⟨[label], uid⟩ = [] := by
  unfold propertiesAt nodesWhere
  rw [List.filter_eq_nil_iff.mpr, List.map_nil]
  intro n hn hkey
  have hlabels : n.labels = [label] := congrArg NodeKey.labels (of_decide_eq_true hkey)
  have hlabel := h n hn
  rw [Node.hasLabel_of_labels_eq hlabels] at hlabel
  cases hlabel

/-- Nodes with `label` have no other label, and no two of them have the same `uid`. -/
structure KeyedAt (g : Graph) (label : String) : Prop where
  single : ∀ n ∈ g.nodes, n.hasLabel label = true → n.labels = [label]
  atMostOne : ∀ uid, (g.propertiesAt (.ofObject label uid)).length ≤ 1

theorem propertiesAt_congr {g h : Graph} (eq : g.nodes = h.nodes) (κ : NodeKey) :
    g.propertiesAt κ = h.propertiesAt κ := by
  unfold propertiesAt nodesWhere
  rw [eq]

theorem KeyedAt.congr {g h : Graph} {label : String} (eq : g.nodes = h.nodes)
    (hg : g.KeyedAt label) : h.KeyedAt label :=
  ⟨eq ▸ hg.single, fun uid => propertiesAt_congr eq _ ▸ hg.atMostOne uid⟩

theorem keyedAt_of_unlabelled {g : Graph} {label : String}
    (h : ∀ n ∈ g.nodes, n.hasLabel label = false) : g.KeyedAt label where
  single n hn hlabel := by
    rw [h n hn] at hlabel
    cases hlabel
  atMostOne uid := by
    rw [NodeKey.ofObject, propertiesAt_of_unlabelled h]
    exact Nat.zero_le 1

/-- Under a keyed label, a node with the label and the `uid` has their key. -/
theorem KeyedAt.key_eq {g : Graph} {label : String} (hg : g.KeyedAt label) {n : Node}
    (hn : n ∈ g.nodes) {uid : String} (hlabel : n.hasLabel label = true)
    (huid : n.text? Key.uid = some uid) : n.key = .ofObject label uid := by
  unfold Node.key NodeKey.ofObject
  rw [hg.single n hn hlabel, huid]

/-- Every node has one label, and no two nodes with the same label have the same `uid`. -/
structure Keyed (g : Graph) : Prop where
  single : ∀ n ∈ g.nodes, ∃ label, n.labels = [label]
  atMostOne : ∀ label uid, (g.propertiesAt (.ofObject label uid)).length ≤ 1

theorem Keyed.keyedAt {g : Graph} (hg : g.Keyed) (label : String) : g.KeyedAt label := by
  refine ⟨fun n hn hlabel => ?_, hg.atMostOne label⟩
  obtain ⟨other, hother⟩ := hg.single n hn
  rw [hother, (Node.hasLabel_iff_of_labels_eq hother).mp hlabel]

theorem key_eq_ofObject_iff {n : Node} {label uid : String} :
    n.key = .ofObject label uid ↔ n.labels = [label] ∧ n.text? Key.uid = some uid := by
  simp [Node.key, NodeKey.ofObject]

/-- Under a keyed label, a node has the key of a `uid` if and only if it has the label and the
`uid`. -/
theorem KeyedAt.key_eq_iff {g : Graph} {label : String} (hg : g.KeyedAt label) {n : Node}
    (hn : n ∈ g.nodes) {uid : String} :
    n.key = .ofObject label uid ↔ n.hasLabel label = true ∧ n.text? Key.uid = some uid := by
  constructor
  · intro hkey
    obtain ⟨hlabels, huid⟩ := key_eq_ofObject_iff.mp hkey
    exact ⟨Node.hasLabel_of_labels_eq hlabels, huid⟩
  · intro hgiven
    exact hg.key_eq hn hgiven.1 hgiven.2

/-- Under a keyed label, the number of nodes with a `uid` is that of the properties under its
key. -/
theorem KeyedAt.count_uid {g : Graph} {label : String} (hg : g.KeyedAt label) (uid : String) :
    ((g.nodesWhere (·.hasLabel label)).map (·.text? Key.uid)).count (some uid)
      = (g.propertiesAt (.ofObject label uid)).length := by
  unfold propertiesAt nodesWhere
  rw [List.length_map, List.count_eq_countP, List.countP_map, List.countP_eq_length_filter,
    List.filter_filter]
  congr 1
  refine List.filter_congr fun n hn => Bool.eq_iff_iff.mpr ?_
  simp only [Function.comp_apply, Bool.and_eq_true, beq_iff_eq, decide_eq_true_eq]
  rw [hg.key_eq_iff hn]
  exact and_comm

/-! ## Upserts -/

/-- Replacing the properties of a node whose key is not `κ`, before and after, leaves what is under
`κ` as it is. -/
theorem filter_replaced_of_ne {n : Node} {p : Properties} {κ : NodeKey} (before after : List Node)
    (hold : n.key ≠ κ) (hnew : ({ n with properties := p } : Node).key ≠ κ) :
    (before ++ { n with properties := p } :: after).filter (·.key = κ)
      = (before ++ n :: after).filter (·.key = κ) := by
  rw [List.filter_append, List.filter_append, List.filter_cons_of_neg (by simpa using hnew),
    List.filter_cons_of_neg (by simpa using hold)]

/-- Replacing the properties of the one node whose key is `κ` replaces what is under `κ`. -/
theorem map_filter_replaced {n : Node} {p : Properties} {κ : NodeKey} {before after : List Node}
    (hold : n.key = κ) (hnew : ({ n with properties := p } : Node).key = κ)
    (hone : ((before ++ n :: after).filter (·.key = κ)).length ≤ 1) :
    ((before ++ { n with properties := p } :: after).filter (·.key = κ)).map Node.properties
      = [p] := by
  rw [List.filter_append, List.filter_cons_of_pos (by simpa using hold), List.length_append,
    List.length_cons] at hone
  -- No other node has the key, so those that are kept as they were do not count.
  have hbefore : before.filter (·.key = κ) = [] := List.eq_nil_of_length_eq_zero (by omega)
  have hafter : after.filter (·.key = κ) = [] := List.eq_nil_of_length_eq_zero (by omega)
  rw [List.filter_append, List.filter_cons_of_pos (by simpa using hnew), hbefore, hafter]
  rfl

theorem key_of_find?_uid {id : Nat} {label uid : String} {p : Properties}
    (hp : p.find? Key.uid = some (.text uid)) :
    (⟨id, [label], p⟩ : Node).key = .ofObject label uid := by
  simp [Node.key, Node.text?, NodeKey.ofObject, hp]

/-- An upsert by `uid` replaces the properties under the key of the `uid`, and those under every
other key stay. -/
theorem KeyedAt.propertiesAt_upsert {g : Graph} {label uid : String} {p : Properties}
    (hg : g.KeyedAt label) (hp : p.find? Key.uid = some (.text uid)) (κ : NodeKey) :
    (g.upsert [label] Key.uid (.text uid) p).propertiesAt κ
      = if κ = .ofObject label uid then [p] else g.propertiesAt κ := by
  have htarget : ∀ n ∈ g.nodes, n.isUpsertTarget [label] Key.uid (.text uid) = true ↔
      n.key = .ofObject label uid := by
    intro n hn
    rw [Node.isUpsertTarget_uid]
    constructor
    · intro hgiven
      obtain ⟨hlabel, huid⟩ := hgiven
      exact hg.key_eq hn hlabel huid
    · intro h
      obtain ⟨hlabels, huid⟩ := key_eq_ofObject_iff.mp h
      exact ⟨Node.hasLabel_of_labels_eq hlabels, huid⟩
  unfold propertiesAt nodesWhere
  rcases g.upsert_cases [label] Key.uid (.text uid) p with
    ⟨before, m, after, hnodes, -, hm, hwritten⟩ | ⟨hnone, hadded⟩
  · have hold : m.key = .ofObject label uid := (htarget m (by rw [hnodes]; simp)).mp hm
    have hnew : ({ m with properties := p } : Node).key = .ofObject label uid := by
      rw [(key_eq_ofObject_iff.mp hold).1]
      exact key_of_find?_uid hp
    rw [hwritten, hnodes]
    split
    · rename_i hκ
      subst hκ
      have hone := hg.atMostOne uid
      rw [propertiesAt, nodesWhere, List.length_map, hnodes] at hone
      exact map_filter_replaced hold hnew hone
    · rename_i hκ
      rw [filter_replaced_of_ne before after (hold ▸ Ne.symm hκ) (hnew ▸ Ne.symm hκ)]
  · rw [hadded, nodes_addNode, List.filter_append, List.map_append]
    split
    · rename_i hκ
      subst hκ
      have hempty : g.nodes.filter (·.key = .ofObject label uid) = [] := by
        rw [List.filter_eq_nil_iff]
        intro n hn hkey
        have htargeted := (htarget n hn).mpr (by simpa using hkey)
        rw [hnone n hn] at htargeted
        cases htargeted
      rw [hempty, List.filter_cons_of_pos (by simpa using key_of_find?_uid hp)]
      rfl
    · rename_i hκ
      have hnew : ¬(⟨g.nextId, [label], p⟩ : Node).key = κ := by
        rw [key_of_find?_uid hp]
        exact Ne.symm hκ
      rw [List.filter_cons_of_neg (by simpa using hnew)]
      simp

theorem propertiesAt_upsert_of_ne {g : Graph} {label other : String} (value : PropertyValue)
    (p : Properties) (uid : Option String) (h : label ≠ other) :
    (g.upsert [label] Key.uid value p).propertiesAt ⟨[other], uid⟩
      = g.propertiesAt ⟨[other], uid⟩ := by
  have hlabels : ∀ n : Node, n.isUpsertTarget [label] Key.uid value = true →
      n.labels ≠ [other] := by
    intro n hn hother
    simp only [Node.isUpsertTarget, List.all_cons, Node.hasLabel, hother, Bool.and_eq_true] at hn
    simp [h] at hn
  unfold propertiesAt nodesWhere
  rcases g.upsert_cases [label] Key.uid value p with
    ⟨before, m, after, hnodes, -, hm, hwritten⟩ | ⟨-, hadded⟩
  · rw [hwritten, hnodes, filter_replaced_of_ne before after] <;> simp [Node.key, hlabels m hm]
  · rw [hadded, nodes_addNode, List.filter_append, List.filter_cons_of_neg (by simp [Node.key, h])]
    simp

/-- After an upsert with `label`, a node with any `other` label was there before. -/
theorem mem_of_mem_upsert {g : Graph} {label other : String} {value : PropertyValue}
    {p : Properties} {n : Node} (h : label ≠ other)
    (hn : n ∈ (g.upsert [label] Key.uid value p).nodes) (hlabel : n.hasLabel other = true) :
    ∃ m ∈ g.nodes, m.hasLabel other = true ∧ m.labels = n.labels := by
  rcases mem_upsert hn with hn | ⟨m, hm, -, rfl⟩ | rfl
  · exact ⟨n, hn, hlabel, rfl⟩
  · exact ⟨m, hm, hlabel, rfl⟩
  · simp [Node.hasLabel, Ne.symm h] at hlabel

theorem KeyedAt.upsert {g : Graph} {label other uid : String} {p : Properties}
    (hg : g.KeyedAt other) (hp : p.find? Key.uid = some (.text uid)) :
    (g.upsert [label] Key.uid (.text uid) p).KeyedAt other := by
  by_cases h : label = other
  · subst h
    refine ⟨?_, fun v => ?_⟩
    · intro n hn hlabel
      rcases mem_upsert hn with hn | ⟨m, hm, -, rfl⟩ | rfl
      · exact hg.single n hn hlabel
      · exact hg.single m hm hlabel
      · rfl
    · rw [hg.propertiesAt_upsert hp]
      split
      · simp
      · exact hg.atMostOne v
  · refine ⟨?_, fun v => ?_⟩
    · intro n hn hlabel
      obtain ⟨m, hm, hmlabel, hlabels⟩ := mem_of_mem_upsert h hn hlabel
      rw [← hlabels]
      exact hg.single m hm hmlabel
    · rw [NodeKey.ofObject, propertiesAt_upsert_of_ne _ _ _ h]
      exact hg.atMostOne v

/-! ## Deletions -/

theorem propertiesAt_removeWhere_of_ne {g : Graph} {test : Node → Bool} {κ : NodeKey}
    (h : ∀ n ∈ g.nodes, test n = true → n.key ≠ κ) :
    (g.removeWhere test).propertiesAt κ = g.propertiesAt κ := by
  unfold propertiesAt nodesWhere removeWhere
  rw [List.filter_filter]
  congr 1
  refine List.filter_congr fun n hn => ?_
  cases htest : test n with
  | false => simp
  | true => simp [h n hn htest]

/-- A deletion by `uid` removes the properties under the key of the `uid`, and those under every
other key stay. -/
theorem KeyedAt.propertiesAt_delete {g : Graph} {label : String} (hg : g.KeyedAt label)
    (uid : String) (κ : NodeKey) :
    (g.removeWhere (·.isMeantBy ⟨label, Key.uid, uid, none⟩)).propertiesAt κ
      = if κ = .ofObject label uid then [] else g.propertiesAt κ := by
  split
  · rename_i hκ
    subst hκ
    unfold propertiesAt nodesWhere removeWhere
    rw [List.filter_filter, List.filter_eq_nil_iff.mpr, List.map_nil]
    intro n _ h
    rw [Bool.and_eq_true, decide_eq_true_eq] at h
    obtain ⟨hlabels, huid⟩ := key_eq_ofObject_iff.mp h.1
    have hmeant := Node.isMeantBy_uid.mpr ⟨Node.hasLabel_of_labels_eq hlabels, huid⟩
    simp [hmeant] at h
  · rename_i hκ
    refine propertiesAt_removeWhere_of_ne fun n hn hmeant => ?_
    obtain ⟨hlabel, huid⟩ := Node.isMeantBy_uid.mp hmeant
    rw [hg.key_eq hn hlabel huid]
    exact Ne.symm hκ

theorem propertiesAt_delete_of_ne {g : Graph} {label other : String} (value : String)
    (uid : Option String) (h : label ≠ other) :
    (g.removeWhere (·.isMeantBy ⟨label, Key.uid, value, none⟩)).propertiesAt ⟨[other], uid⟩
      = g.propertiesAt ⟨[other], uid⟩ := by
  refine propertiesAt_removeWhere_of_ne fun n _ hmeant hkey => ?_
  obtain ⟨hlabel, -⟩ := Node.isMeantBy_uid.mp hmeant
  have hlabels : n.labels = [other] := congrArg NodeKey.labels hkey
  simp [Node.hasLabel, hlabels, h] at hlabel

theorem KeyedAt.removeWhere {g : Graph} {label : String} (hg : g.KeyedAt label)
    (test : Node → Bool) : (g.removeWhere test).KeyedAt label := by
  refine ⟨fun n hn => hg.single n (mem_nodes_removeWhere.mp hn).1, fun uid => ?_⟩
  refine Nat.le_trans ?_ (hg.atMostOne uid)
  unfold propertiesAt nodesWhere Graph.removeWhere
  rw [List.length_map, List.length_map]
  exact (List.filter_sublist.filter _).length_le

/-! ## Equal tables -/

/-- The nodes with some content are among those with one key, so they can be counted there. -/
theorem count_content (nodes : List Node) (labels : List String) (p : Properties) :
    (nodes.map Node.content).count (labels, p)
      = (((nodes.filter (·.key = ⟨labels, (p.find? Key.uid).bind PropertyValue.text?⟩)).map
          Node.properties).map (Node.lasting labels)).count p := by
  induction nodes with
  | nil => rfl
  | cons n rest ih =>
      rw [List.map_cons]
      by_cases hcontent : n.content = (labels, p)
      · obtain ⟨hlabels, hp⟩ := Prod.mk.inj hcontent
        have hkey : n.key = ⟨labels, (p.find? Key.uid).bind PropertyValue.text?⟩ := by
          rw [← hp, Node.find?_uid_lasting, ← hlabels]
          rfl
        rw [hlabels] at hp
        rw [List.filter_cons_of_pos (by simpa using hkey), List.map_cons, List.map_cons, hcontent,
          hp, List.count_cons_self, List.count_cons_self, ih]
      · rw [List.count_cons_of_ne hcontent, ih, List.filter_cons]
        split
        · rename_i hkey
          have hlabels : n.labels = labels := congrArg NodeKey.labels (of_decide_eq_true hkey)
          have hp : Node.lasting labels n.properties ≠ p := fun h =>
            hcontent (by rw [Node.content, hlabels, h])
          rw [List.map_cons, List.map_cons, List.count_cons_of_ne hp]
        · rfl

/-- If two graphs have the same lasting properties under every key, the contents of their nodes are
permutations of each other. -/
theorem perm_contents {g h : Graph}
    (eq : ∀ κ : NodeKey, (g.propertiesAt κ).map (Node.lasting κ.labels)
      = (h.propertiesAt κ).map (Node.lasting κ.labels)) :
    (g.nodes.map Node.content).Perm (h.nodes.map Node.content) := by
  rw [List.perm_iff_count]
  intro hgiven
  obtain ⟨labels, p⟩ := hgiven
  rw [count_content, count_content]
  exact congrArg (List.count p) (eq ⟨labels, (p.find? Key.uid).bind PropertyValue.text?⟩)

end Graph

end ClusterGraph
