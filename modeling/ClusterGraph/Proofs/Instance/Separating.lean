import ClusterGraph.Proofs.Instance.Calls
import ClusterGraph.Proofs.Settings.Hash

/-!
# ClusterGraph.Proofs.Instance.Separating

**Two instances that enter themselves have a node each, unless the name of one and the hash of the
other share what stands between.**

The node of an instance is kept under a text that joins the name of its cluster and its hash by a
slash. Neither part is free of slashes, so the text can be cut in more than one way: it is the same
for two identities exactly if one name goes on where the other ends, by what the hash of the other
starts with (`Identity.uid_eq_iff`). Names with slashes do no harm as long as hashes have none.

Where the texts differ, the nodes are apart, whatever the graph and in either order
(`Command.registered_apart`). Where they do not, the instance that comes second takes over the node
of the first, and nothing is left of that.
-/

namespace ClusterGraph

/-! ## Texts that can be cut in two ways -/

namespace Identity

variable {a b : Identity}

/-- An identity that settings can have: the name of its cluster is not blank, and its hash is not
empty (`isAccepted_iff`). -/
structure IsAccepted (id : Identity) : Prop where
  named : Text.isBlankText id.cluster = false
  hashed : id.hash ≠ ""

/-- The cluster name of `a` is that of `b`, a slash and some text `between`, and the hash of `b` is
this text, a slash and the hash of `a`. So the slash that joins the parts can be read in two
places. -/
def Overlaps (a b : Identity) : Prop :=
  ∃ between : String, a.cluster = b.cluster ++ "/" ++ between ∧ b.hash = between ++ "/" ++ a.hash

/-- Different identities of which none `Overlaps` the other. -/
def IsApart (a b : Identity) : Prop :=
  a ≠ b ∧ ¬a.Overlaps b ∧ ¬b.Overlaps a

theorem Overlaps.uid_eq (h : a.Overlaps b) : a.uid = b.uid := by
  obtain ⟨between, hcluster, hhash⟩ := h
  unfold uid
  rw [hcluster, hhash]
  simp only [String.append_assoc]

/-- If one `uid` is read with two cluster names, of which one goes on after the other, the
identities are the same or overlap. -/
theorem overlaps_of_cut {rest : List Char} (hcluster : a.cluster.toList = b.cluster.toList ++ rest)
    (hhash : '/' :: b.hash.toList = rest ++ '/' :: a.hash.toList) : a = b ∨ a.Overlaps b := by
  obtain ⟨name, hash⟩ := a
  obtain ⟨name', hash'⟩ := b
  cases rest with
  | nil =>
      rw [List.append_nil] at hcluster
      have htail : hash'.toList = hash.toList := (List.cons.inj hhash).2
      obtain rfl := String.toList_inj.mp hcluster
      obtain rfl := String.toList_inj.mp htail
      exact .inl rfl
  | cons c rest =>
      obtain ⟨rfl, htail⟩ := List.cons.inj hhash
      refine .inr ⟨String.ofList rest, String.toList_inj.mp ?_, String.toList_inj.mp ?_⟩
      · simpa using hcluster
      · simpa using htail

/-- When two identities have the same `uid`: they are the same, or one `Overlaps` the other. -/
theorem uid_eq_iff : a.uid = b.uid ↔ a = b ∨ a.Overlaps b ∨ b.Overlaps a := by
  constructor
  · intro h
    have hlist : a.cluster.toList ++ '/' :: a.hash.toList
        = b.cluster.toList ++ '/' :: b.hash.toList := by
      simpa [uid] using congrArg String.toList h
    rcases List.append_eq_append_iff.mp hlist with ⟨rest, hcluster, hhash⟩ | ⟨rest, hcluster, hhash⟩
    · rcases overlaps_of_cut hcluster hhash with heq | hoverlaps
      · exact .inl heq.symm
      · exact .inr (.inr hoverlaps)
    · exact (overlaps_of_cut hcluster hhash).imp_right .inl
  · intro h
    rcases h with rfl | hoverlaps | hoverlaps
    · rfl
    · exact hoverlaps.uid_eq
    · exact hoverlaps.uid_eq.symm

theorem isApart_iff : a.IsApart b ↔ a.uid ≠ b.uid := by
  unfold IsApart
  rw [ne_eq, ne_eq, uid_eq_iff]
  tauto

/-- Identities whose hashes have no slash never overlap, whatever their cluster names are. -/
theorem isApart_of_hash (hne : a ≠ b) (ha : '/' ∉ a.hash.toList) (hb : '/' ∉ b.hash.toList) :
    a.IsApart b := by
  refine ⟨hne, fun hoverlaps => hb ?_, fun hoverlaps => ha ?_⟩
  all_goals
    obtain ⟨between, -, hhash⟩ := hoverlaps
    simp [hhash]

/-- The identities that `IsAccepted` are exactly those that `Settings.resolve` can come to. -/
theorem isAccepted_iff {id : Identity} :
    id.IsAccepted ↔ ∃ env f madeUp s, madeUp ≠ "" ∧ Settings.resolve env f madeUp = .ok s
      ∧ s.identity = id := by
  constructor
  · intro h
    let file : SettingsFile := { cluster := ⟨id.cluster, some id.hash⟩ }
    obtain ⟨s, hresolve⟩ : ∃ s, Settings.resolve Dict.empty file id.hash = .ok s :=
      Settings.exists_resolve h.named
    have hconfigured : (Settings.configuredHash? Dict.empty file).getD id.hash = id.hash := by
      cases hcases : Settings.configuredHash? Dict.empty file with
      | none => rfl
      | some hash => exact (Option.some.inj (Option.filter_eq_some_iff.mp hcases).1).symm
    refine ⟨Dict.empty, file, id.hash, s, h.hashed, hresolve, ?_⟩
    rw [(Settings.identity_of_resolve hresolve).2, hconfigured]
    rfl
  · rintro ⟨env, f, madeUp, s, hmadeUp, hresolve, rfl⟩
    obtain ⟨hnamed, hidentity⟩ := Settings.identity_of_resolve hresolve
    refine ⟨hnamed, ?_⟩
    rw [hidentity]
    cases hconfigured : Settings.configuredHash? env f with
    | none => exact hmadeUp
    | some hash => simpa using (Option.filter_eq_some_iff.mp hconfigured).2

end Identity

/-! ## Nodes of instances -/

namespace Node

/-- Node `n` is the cluster node of `id`: it holds its `uid`, its cluster name and its hash. -/
structure StandsFor (n : Node) (id : Identity) : Prop where
  label : n.hasLabel Label.cluster = true
  uid : n.text? Key.uid = some id.uid
  name : n.text? Key.name = some id.cluster
  clusterName : n.text? Key.clusterName = some id.cluster
  hash : n.text? Key.instanceHash = some id.hash

theorem StandsFor.uid_eq {n : Node} {a b : Identity} (ha : n.StandsFor a) (hb : n.StandsFor b) :
    a.uid = b.uid :=
  Option.some.inj (ha.uid.symm.trans hb.uid)

end Node

namespace Command

variable {a b : Identity} {id : Identity} {now : Instant} {g : Graph} {s : MemoryStore}

/-- The node that `Command.register` makes for `id` if it gets this number. -/
def clusterNode (id : Identity) (now : Instant) (number : Nat) : Node :=
  ⟨number, [Label.cluster], storedProperties (clusterFields id now)⟩

/-- The graph after `Command.register`. -/
def entered (id : Identity) (now : Instant) (g : Graph) : Graph :=
  g.upsert [Label.cluster] Key.uid (.text id.uid) (storedProperties (clusterFields id now))

/-- Run `Command.register` for each identity, one after the other. -/
def registerAll (turns : List (Identity × Instant)) (s : MemoryStore) : MemoryStore :=
  turns.foldl (fun s turn => ((register turn.1 turn.2).run MemoryStore.perform s).2) s

/-- Running `register` succeeds, comes to `entered`, and leaves the store writable. -/
theorem run_register (hs : s.writable = true) (id : Identity) (now : Instant) :
    ((register id now).run MemoryStore.perform s).1 = .ok ()
      ∧ ((register id now).run MemoryStore.perform s).2.graph = entered id now s.graph
      ∧ ((register id now).run MemoryStore.perform s).2.writable = true := by
  unfold register
  rw [Plan.run_call, perform_register hs]
  exact ⟨rfl, rfl, hs⟩

theorem graph_registerAll (hs : s.writable = true) (turns : List (Identity × Instant)) :
    (registerAll turns s).graph
      = turns.foldl (fun g turn => entered turn.1 turn.2 g) s.graph := by
  unfold registerAll
  induction turns generalizing s with
  | nil => rfl
  | cons turn rest ih =>
      obtain ⟨-, hgraph, hwritable⟩ := run_register hs turn.1 turn.2
      rw [List.foldl_cons, List.foldl_cons, ih hwritable, hgraph]

theorem standsFor_of_properties {n : Node} (hlabel : n.hasLabel Label.cluster = true)
    (h : n.properties = storedProperties (clusterFields id now)) : n.StandsFor id := by
  have htext : ∀ {key value : String}, (key, value) ∈ [(Key.uid, id.uid), (Key.name, id.cluster),
      (Key.clusterName, id.cluster), (Key.instanceHash, id.hash)] → n.text? key = some value := by
    intro key value hmem
    unfold Node.text?
    rw [h, find?_clusterFields id now hmem]
    rfl
  exact ⟨hlabel, htext (by simp), htext (by simp), htext (by simp), htext (by simp)⟩

theorem standsFor_clusterNode (id : Identity) (now : Instant) (number : Nat) :
    (clusterNode id now number).StandsFor id :=
  standsFor_of_properties (by simp [clusterNode, Node.hasLabel]) rfl

/-- After `entered id`, some node `StandsFor id`. -/
theorem exists_standsFor_entered (id : Identity) (now : Instant) (g : Graph) :
    ∃ n ∈ (entered id now g).nodes, n.StandsFor id := by
  obtain ⟨n, hn, htarget, hproperties⟩ : ∃ n ∈ (entered id now g).nodes,
      n.isUpsertTarget [Label.cluster] Key.uid (.text id.uid) = true
        ∧ n.properties = storedProperties (clusterFields id now) :=
    Graph.exists_mem_upsert_target (storedUid_clusterFields id now)
  exact ⟨n, hn, standsFor_of_properties (Node.isUpsertTarget_uid.mp htarget).1 hproperties⟩

/-- A node of `a` stays as it is when `b` is entered, if their `uid`s differ. -/
theorem mem_entered_of_ne {n : Node} (hn : n ∈ g.nodes) (hstands : n.StandsFor a)
    (hne : a.uid ≠ b.uid) (now : Instant) : n ∈ (entered b now g).nodes := by
  refine (Graph.exists_mem_upsert hn).resolve_right fun htarget => hne ?_
  have huid := (Node.isUpsertTarget_uid.mp htarget.1).2
  exact Option.some.inj (hstands.uid.symm.trans huid)

/-- After both are entered, each has a node of its own, if their `uid`s differ. -/
theorem exists_standsFor_both (hne : a.uid ≠ b.uid) (now now' : Instant) (g : Graph) :
    ∃ m ∈ (entered b now' (entered a now g)).nodes, ∃ n ∈ (entered b now' (entered a now g)).nodes,
      m ≠ n ∧ m.StandsFor a ∧ n.StandsFor b := by
  obtain ⟨m, hm, hstands⟩ := exists_standsFor_entered a now g
  obtain ⟨n, hn, hstands'⟩ := exists_standsFor_entered b now' (entered a now g)
  refine ⟨m, mem_entered_of_ne hm hstands hne now', n, hn, fun heq => hne ?_, hstands, hstands'⟩
  exact (heq ▸ hstands).uid_eq hstands'

/-- Entering `b` replaces the node of `a`, if they have the same `uid`: it is as if `a` had never
been entered. -/
theorem entered_entered_of_uid_eq (h : a.uid = b.uid) (now now' : Instant) (g : Graph) :
    entered b now' (entered a now g) = entered b now' g := by
  unfold entered
  rw [h]
  exact Graph.upsert_upsert (h ▸ storedUid_clusterFields a now) _

/-- If no node has the `uid` of the instance, entering it adds its `clusterNode` at the end. -/
theorem nodes_entered_of_fresh (h : ∀ n ∈ g.nodes, n.text? Key.uid = some id.uid →
    n.hasLabel Label.cluster = false) (now : Instant) :
    (entered id now g).nodes = g.nodes ++ [clusterNode id now g.nextId] := by
  have hnone : ∀ n ∈ g.nodes,
      n.isUpsertTarget [Label.cluster] Key.uid (.text id.uid) = false := by
    intro n hn
    rw [Bool.eq_false_iff]
    intro htarget
    obtain ⟨hlabel, huid⟩ := Node.isUpsertTarget_uid.mp htarget
    rw [h n hn huid] at hlabel
    cases hlabel
  unfold entered
  rw [Graph.upsert_of_missing hnone, Graph.nodes_addNode]
  rfl

/-- The cluster nodes after `a` and `b` were entered into a graph without any, if their `uid`s
differ. -/
theorem nodesWhere_entered_entered (h : ∀ n ∈ g.nodes, n.hasLabel Label.cluster = false)
    (hne : a.uid ≠ b.uid) (now now' : Instant) :
    (entered b now' (entered a now g)).nodesWhere (·.hasLabel Label.cluster)
      = [clusterNode a now g.nextId, clusterNode b now' (entered a now g).nextId] := by
  have hfirst : (entered a now g).nodes = g.nodes ++ [clusterNode a now g.nextId] :=
    nodes_entered_of_fresh (fun n hn _ => h n hn) now
  have hfresh : ∀ n ∈ (entered a now g).nodes, n.text? Key.uid = some b.uid →
      n.hasLabel Label.cluster = false := by
    intro n hn huid
    rw [hfirst, List.mem_append, List.mem_singleton] at hn
    rcases hn with hn | rfl
    · exact h n hn
    · have hstands := standsFor_clusterNode a now g.nextId
      exact absurd (Option.some.inj (hstands.uid.symm.trans huid)) hne
  have hnone : g.nodes.filter (·.hasLabel Label.cluster) = [] :=
    List.filter_eq_nil_iff.mpr (by simpa using h)
  unfold Graph.nodesWhere
  rw [nodes_entered_of_fresh hfresh, hfirst, List.filter_append, List.filter_append, hnone]
  simp [standsFor_clusterNode _ _ _ |>.label]

/-- Two instances register one after the other, in any graph of a store that can be written. Both
succeed. If their identities are apart (`Identity.IsApart`), each has a node that `StandsFor` it,
and there is no other cluster node if there was none before. If they are not apart, the graph is the
one that the second alone leaves. -/
theorem registered_apart (a b : Identity) (now now' : Instant) (hs : s.writable = true) :
    let left := (registerAll [(a, now), (b, now')] s).graph
    ((register a now).run MemoryStore.perform s).1 = .ok ()
      ∧ ((register b now').run MemoryStore.perform (registerAll [(a, now)] s)).1 = .ok ()
      ∧ (a.IsApart b →
        (∃ m ∈ left.nodes, ∃ n ∈ left.nodes, m ≠ n ∧ m.StandsFor a ∧ n.StandsFor b)
          ∧ ((∀ n ∈ s.graph.nodes, n.hasLabel Label.cluster = false) →
            ∃ m n : Node, left.nodesWhere (·.hasLabel Label.cluster) = [m, n]
              ∧ m.StandsFor a ∧ n.StandsFor b))
      ∧ (¬a.IsApart b → left = (registerAll [(b, now')] s).graph) := by
  obtain ⟨hdone, -, hwritable⟩ := run_register hs a now
  have hleft : (registerAll [(a, now), (b, now')] s).graph
      = entered b now' (entered a now s.graph) := graph_registerAll hs _
  refine ⟨hdone, (run_register hwritable b now').1, ?_, ?_⟩
  · intro hapart
    have hne := Identity.isApart_iff.mp hapart
    rw [hleft]
    refine ⟨exists_standsFor_both hne now now' s.graph, fun hempty => ?_⟩
    exact ⟨_, _, nodesWhere_entered_entered hempty hne now now', standsFor_clusterNode ..,
      standsFor_clusterNode ..⟩
  · intro hclash
    have huid : a.uid = b.uid := not_not.mp (Identity.isApart_iff.not.mp hclash)
    rw [hleft, entered_entered_of_uid_eq huid]
    exact (graph_registerAll hs [(b, now')]).symm

/-- The instant 1970-01-01T00:00:00Z. -/
def firstMoment : Instant := ⟨0, 0⟩

/-- Two clusters with slashes in their names, and the same hash. -/
def euShop : Identity := ⟨"arn:aws:eks:eu:42:cluster/shop", "blue"⟩
def usShop : Identity := ⟨"arn:aws:eks:us:42:cluster/shop", "blue"⟩

/-- Instance of `registered_apart`: slashes in the cluster names alone do not make the identities
overlap. -/
theorem registered_apart_paths :
    MemoryStore.empty.writable = true
      ∧ ∃ m n : Node, m.StandsFor euShop ∧ n.StandsFor usShop
        ∧ (registerAll [(euShop, firstMoment), (usShop, firstMoment)]
          MemoryStore.empty).graph.nodesWhere (·.hasLabel Label.cluster) = [m, n] := by
  have hapart : euShop.IsApart usShop :=
    Identity.isApart_of_hash (by decide) (by decide) (by decide)
  obtain ⟨-, -, hnodes, -⟩ := registered_apart euShop usShop firstMoment firstMoment
    (rfl : MemoryStore.empty.writable = true)
  obtain ⟨m, n, hleft, hm, hn⟩ := (hnodes hapart).2 (by intro n hn; cases hn)
  exact ⟨rfl, m, n, hm, hn, hleft⟩

/-- An instance of the cluster `eu`, and another one of the cluster `eu/shop`. -/
def euShopWeb : Identity := ⟨"eu", "shop/web-0"⟩
def euShopCluster : Identity := ⟨"eu/shop", "web-0"⟩

/-- Counterexample: `euShopWeb` and `euShopCluster` are both accepted by the settings and differ in
both parts, but they share one node. -/
theorem not_registered_apart :
    ¬∀ (a b : Identity) (now now' : Instant) (s : MemoryStore),
      a.IsAccepted → b.IsAccepted → a ≠ b → s.writable = true →
        let left := (registerAll [(a, now), (b, now')] s).graph
        ∃ m ∈ left.nodes, ∃ n ∈ left.nodes, m ≠ n ∧ m.StandsFor a ∧ n.StandsFor b := by
  intro h
  have hoverlaps : euShopCluster.Overlaps euShopWeb := ⟨"shop", by decide, by decide⟩
  obtain ⟨m, hm, n, hn, hne, -⟩ := h euShopWeb euShopCluster firstMoment firstMoment
    MemoryStore.empty ⟨by decide, by decide⟩ ⟨by decide, by decide⟩ (by decide) rfl
  have hleft : (registerAll [(euShopWeb, firstMoment), (euShopCluster, firstMoment)]
      MemoryStore.empty).graph.nodes = [clusterNode euShopCluster firstMoment 0] := by
    rw [graph_registerAll rfl, List.foldl_cons, List.foldl_cons, List.foldl_nil,
      entered_entered_of_uid_eq hoverlaps.uid_eq.symm, nodes_entered_of_fresh]
    · rfl
    · intro n hn
      cases hn
  rw [hleft, List.mem_singleton] at hm hn
  exact hne (hm.trans hn.symm)

end Command
end ClusterGraph
