import ClusterGraph.Proofs.Instance.Duties

/-!
# ClusterGraph.Proofs.Instance.Tenancy

**Clusters that share a graph are isolated: no instance touches what an instance of another
cluster wrote last.**

Labels are shared, identifiers are not narrowed to a cluster, and an owner or the object of an
event is named by its identifier alone. What keeps clusters apart is that everything an instance
does is anchored: it writes and deletes under identifiers that it watches, sweeps and prunes
under the name of its cluster, and one end of each relationship that it makes is a node of its
own (`Call.Touches`). Nodes that other parties wrote are out of its reach (`Node.IsBeyond`),
for they tell of other identifiers and other clusters (`Tenants.isBeyond`).
-/

namespace ClusterGraph

/-! ## Out of reach -/

/-- Node that an instance does not reach: it is in none of its places (`Occupies`), and it tells of
another cluster. -/
structure Node.IsBeyond (n : Node) (id : Identity) (watched : String → Prop) : Prop where
  place : ∀ label uid, Occupies id watched label uid → n.hasLabel label = true →
    n.text? Key.uid ≠ some uid
  cluster : n.holdsText Key.clusterName id.cluster = false
  name : n.hasLabel Label.cluster = true → n.holdsText Key.name id.cluster = false

namespace Node.IsBeyond

variable {n : Node} {id : Identity} {watched : String → Prop}

theorem isUpsertTarget (h : n.IsBeyond id watched) {label uid : String}
    (hplace : Occupies id watched label uid) :
    n.isUpsertTarget [label] Key.uid (.text uid) = false := by
  rw [Bool.eq_false_iff]
  intro htarget
  obtain ⟨hlabel, huid⟩ := Node.isUpsertTarget_uid.mp htarget
  exact h.place label uid hplace hlabel huid

theorem isMeantBy (h : n.IsBeyond id watched) (k : Kind) {uid : String} (huid : watched uid) :
    n.isMeantBy (.byUid k.name uid) = false := by
  rw [Bool.eq_false_iff]
  intro hmeant
  obtain ⟨hlabel, hvalue⟩ := Node.isMeantBy_uid.mp hmeant
  exact h.place k.name uid (.object k huid) hlabel hvalue

theorem isStale (h : n.IsBeyond id watched) : n.isStale id = false := by
  unfold Node.isStale
  rw [h.cluster, Bool.false_and]

theorem isStaleCluster (h : n.IsBeyond id watched) : n.isStaleCluster id = false := by
  unfold Node.isStaleCluster
  cases hlabel : n.hasLabel Label.cluster with
  | false => rfl
  | true => rw [h.name hlabel, Bool.and_false, Bool.false_and]

theorem isExpiredEvent (h : n.IsBeyond id watched) (cutoff : String) :
    n.isExpiredEvent id.cluster cutoff = false := by
  unfold Node.isExpiredEvent
  rw [h.cluster, Bool.and_false, Bool.false_and]

end Node.IsBeyond

/-! ## What a duty touches -/

namespace Call

/-- Effect of a call of a duty on a graph: it writes a node in a place of the instance, removes
nodes that are not beyond it, links a node in such a place, or does nothing. -/
inductive Touches (id : Identity) (watched : String → Prop) (c : Call) (g : Graph) : Prop where
  | writes {label uid : String} (p : Properties) (hplace : Occupies id watched label uid)
      (heffect : c.effect g = g.upsert [label] Key.uid (.text uid) p)
      (hwritten : c.written? g = some (g.upsertId [label] Key.uid (.text uid)))
  | removes (test : Node → Bool) (hspares : ∀ n : Node, n.IsBeyond id watched → test n = false)
      (heffect : c.effect g = g.removeWhere test) (hwritten : c.written? g = none)
  | links (l : Link) {k : Kind} {uid : String} (huid : watched uid)
      (hself : l.IsAt (.byUid k.name uid))
      (heffect : c.effect g = g.link l.source l.rel l.target) (hwritten : c.written? g = none)
  | nothing (heffect : c.effect g = g) (hwritten : c.written? g = none)

variable {id : Identity} {watched : String → Prop} {c : Call}

theorem IsSweep.touches (hc : c.IsSweep id) (g : Graph) : c.Touches id watched g := by
  cases hc with
  | clusters => exact .removes _ (fun _ h => h.isStaleCluster) rfl rfl
  | label label =>
      by_cases hlabel : label = Label.event
      · exact .nothing (if_pos hlabel) rfl
      · refine .removes _ (fun n h => ?_) (if_neg hlabel) rfl
        rw [h.isStale, Bool.and_false]
  | all =>
      refine .removes _ (fun n h => ?_) rfl rfl
      rw [h.isStale, Bool.and_false]

theorem IsOfDuty.touches (hc : c.IsOfDuty id watched) (g : Graph) : c.Touches id watched g := by
  rcases hc with hc | ⟨cutoff, rfl⟩
  · cases hc with
    | @write mode label uid properties hplace huid =>
        exact .writes (storedProperties properties) hplace (by simp only [effect, huid])
          (by simp only [written?, huid, Option.map_some])
    | @delete k _ uid huid => exact .removes _ (fun n h => h.isMeantBy k huid) rfl rfl
    | link huid hself => exact .links _ huid hself rfl rfl
    | list => exact .nothing rfl rfl
    | sweep hsweep => exact hsweep.touches g
  · exact .removes _ (fun n h => h.isExpiredEvent cutoff.format) rfl rfl

namespace Touches

variable {g : Graph} {n m : Node}

/-- A node that is beyond the instance stays as it is. -/
theorem mem (hc : c.Touches id watched g) (hn : n ∈ g.nodes) (h : n.IsBeyond id watched) :
    n ∈ (c.effect g).nodes := by
  cases hc with
  | writes p hplace heffect =>
      rw [heffect]
      refine (Graph.exists_mem_upsert hn).resolve_right fun htarget => ?_
      rw [h.isUpsertTarget hplace] at htarget
      cases htarget.1
  | removes test hspares heffect =>
      rw [heffect]
      exact Graph.mem_nodes_removeWhere.mpr ⟨hn, hspares n h⟩
  | links l _ _ heffect =>
      rw [heffect]
      exact hn
  | nothing heffect =>
      rw [heffect]
      exact hn

/-- The node that the call writes is not beyond the instance. -/
theorem written?_ne (hc : c.Touches id watched g) (hg : g.Numbered) (hn : n ∈ g.nodes)
    (h : n.IsBeyond id watched) : c.written? g ≠ some n.id := by
  cases hc with
  | @writes label uid p hplace _ hwritten =>
      rw [hwritten]
      intro hid
      have hid := Option.some.inj hid
      rcases g.upsert_cases [label] Key.uid (.text uid) p with
        ⟨before, m, after, hnodes, hbefore, htarget, -⟩ | ⟨hnone, -⟩
      · have hm : m ∈ g.nodes := by rw [hnodes]; simp
        rw [Graph.upsertId_of_first hnodes hbefore htarget] at hid
        rw [hg.eq_of_id hm hn hid, h.isUpsertTarget hplace] at htarget
        cases htarget
      · rw [Graph.upsertId_of_missing hnone] at hid
        exact absurd (hg.below n hn) (Nat.not_lt_of_le (Nat.le_of_eq hid))
  | removes _ _ _ hwritten => rw [hwritten]; nofun
  | links _ _ _ _ hwritten => rw [hwritten]; nofun
  | nothing _ hwritten => rw [hwritten]; nofun

/-- An edge between two nodes that are beyond the instance is there after the call just if it was
there before. -/
theorem mem_edges (hc : c.Touches id watched g) (hg : g.Numbered) (hn : n ∈ g.nodes)
    (hm : m ∈ g.nodes) (hsource : n.IsBeyond id watched) (htarget : m.IsBeyond id watched)
    (rel : Relationship) :
    ⟨n.id, rel, m.id⟩ ∈ (c.effect g).edges ↔ ⟨n.id, rel, m.id⟩ ∈ g.edges := by
  cases hc with
  | writes p hplace heffect => rw [heffect, Graph.edges_upsert]
  | removes test hspares heffect =>
      rw [heffect, Graph.mem_edges_removeWhere]
      refine and_iff_left fun gone hgone htest => ⟨fun hid => ?_, fun hid => ?_⟩
      · rw [hg.eq_of_id hgone hn hid, hspares n hsource] at htest
        cases htest
      · rw [hg.eq_of_id hgone hm hid, hspares m htarget] at htest
        cases htest
  | @links l k uid huid hself heffect =>
      rw [heffect, Graph.mem_edges_link]
      refine or_iff_left fun hnew => ?_
      obtain ⟨-, ⟨a, ha, haid⟩, b, hb, hbid⟩ := Graph.mem_edgesBetween.mp hnew
      obtain ⟨ha, hameant⟩ := Graph.mem_nodesAt.mp ha
      obtain ⟨hb, hbmeant⟩ := Graph.mem_nodesAt.mp hb
      rw [hg.eq_of_id ha hn haid] at hameant
      rw [hg.eq_of_id hb hm hbid] at hbmeant
      rcases hself with hself | hself
      · rw [hself, hsource.isMeantBy k huid] at hameant
        cases hameant
      · rw [hself, htarget.isMeantBy k huid] at hbmeant
        cases hbmeant
  | nothing heffect => rw [heffect]

end Touches
end Call

/-! ## Tenants -/

variable {ι : Type}

/-- Parties that share a graph: different ones have different clusters, cluster nodes with different
`uid`s, and watch no two objects with the same `uid`. -/
structure Tenants (w : ι → Writer) (watched : ι → String → Prop) : Prop where
  clusters : ∀ {i j}, i ≠ j → (w i).id.cluster ≠ (w j).id.cluster
  uids : ∀ {i j}, i ≠ j → (w i).id.uid ≠ (w j).id.uid
  objects : ∀ {i j}, i ≠ j → ∀ uid, watched i uid → ¬watched j uid

namespace Tenants

variable {w : ι → Writer} {watched : ι → String → Prop} {i j : ι}

theorem not_occupies (h : Tenants w watched) (hij : i ≠ j) {label uid : String}
    (hi : Occupies (w i).id (watched i) label uid) :
    ¬Occupies (w j).id (watched j) label uid := by
  intro hj
  generalize hlabel : label = label' at hj
  generalize huid : uid = uid' at hj
  cases hi with
  | object k hi =>
      cases hj with
      | object k' hj => exact h.objects hij uid hi (huid ▸ hj)
      | cluster => exact k.name_ne_cluster hlabel
  | cluster =>
      cases hj with
      | object k' hj => exact k'.name_ne_cluster hlabel.symm
      | cluster => exact h.uids hij huid

/-- A record of party `j` is beyond every other party. -/
theorem isBeyond (h : Tenants w watched) (hij : i ≠ j) {n : Node}
    (hn : n.IsRecordOf (w j).id (watched j)) : n.IsBeyond (w i).id (watched i) := by
  obtain ⟨label, uid, hlabels, huid, hplace⟩ := hn.place
  refine ⟨fun other value hother hlabel hvalue => ?_, ?_, fun hlabel => ?_⟩
  · rw [huid] at hvalue
    rw [(Node.hasLabel_iff_of_labels_eq hlabels).mp hlabel, ← Option.some.inj hvalue] at hother
    exact h.not_occupies hij hother hplace
  · obtain ⟨_, -, hsigned⟩ := hn.signed
    unfold Node.holdsText Node.text?
    rw [hsigned.cluster]
    simpa using (h.clusters hij).symm
  · have hcluster : n.labels = [Label.cluster] := by
      rw [(Node.hasLabel_iff_of_labels_eq hlabels).mp hlabel]
      exact hlabels
    unfold Node.holdsText
    rw [hn.name hcluster]
    simpa using (h.clusters hij).symm

end Tenants

namespace Ledger

/-- Node `n` was written last by a party other than `i`. -/
def IsOthers (i : ι) (l : Ledger ι) (n : Node) : Prop :=
  n ∈ l.graph.nodes ∧ ∃ j, i ≠ j ∧ l.author n.id = some j

/-- From `l` to `l'`, the nodes that others than `i` wrote last stay as they are, and so do the
edges between two of them. -/
structure Spares (i : ι) (l l' : Ledger ι) : Prop where
  nodes : ∀ n, l.IsOthers i n → l'.IsOthers i n
  edges : ∀ n m, l.IsOthers i n → l.IsOthers i m → ∀ rel,
    (⟨n.id, rel, m.id⟩ ∈ l'.graph.edges ↔ ⟨n.id, rel, m.id⟩ ∈ l.graph.edges)

theorem Spares.refl (i : ι) (l : Ledger ι) : Spares i l l :=
  ⟨fun _ h => h, fun _ _ _ _ _ => Iff.rfl⟩

theorem Spares.trans {i : ι} {l l' l'' : Ledger ι} (h : Spares i l l') (h' : Spares i l' l'') :
    Spares i l l'' where
  nodes n hn := h'.nodes n (h.nodes n hn)
  edges n m hn hm rel :=
    (h'.edges n m (h.nodes n hn) (h.nodes m hm) rel).trans (h.edges n m hn hm rel)

variable {w : ι → Writer} {watched : ι → String → Prop} {l : Ledger ι} {i : ι}

theorem Records.isBeyond (h : l.Records w watched) (htenants : Tenants w watched) {n : Node}
    (hn : l.IsOthers i n) : n.IsBeyond (w i).id (watched i) := by
  obtain ⟨hmem, j, hij, hauthor⟩ := hn
  exact htenants.isBeyond hij (h.recorded n hmem j hauthor)

/-- Step lemma: a call of a duty of party `i` spares the others. -/
theorem Records.spares_performBy (h : l.Records w watched) (htenants : Tenants w watched)
    {c : Call} (hc : c.IsOfDuty (w i).id (watched i)) : Spares i l (Ledger.performBy i c l).2 := by
  have htouches := hc.touches l.graph
  rcases performBy_cases i c l with ⟨hgraph, hauthor⟩ | ⟨hgraph, hauthor⟩
  · refine ⟨fun n hn => ?_, fun n m _ _ rel => by rw [hgraph]⟩
    unfold IsOthers
    rw [hgraph, hauthor]
    exact hn
  · refine ⟨fun n hn => ?_, fun n m hn hm rel => ?_⟩
    · have hbeyond := h.isBeyond htenants hn
      obtain ⟨hmem, j, hij, hj⟩ := hn
      unfold IsOthers
      rw [hgraph, hauthor, authors, if_neg (htouches.written?_ne h.numbered hmem hbeyond)]
      exact ⟨htouches.mem hmem hbeyond, j, hij, hj⟩
    · rw [hgraph]
      exact htouches.mem_edges h.numbered hn.1 hm.1 (h.isBeyond htenants hn)
        (h.isBeyond htenants hm) rel

theorem Records.spares_work (h : l.Records w watched) (htenants : Tenants w watched)
    {turn : ι × Duty} (habout : turn.2.IsAbout (watched turn.1)) :
    Spares turn.1 l (l.work w turn) := by
  refine (work_induction (P := fun r => r.Records w watched ∧ Spares turn.1 l r) habout ?_
    ⟨h, .refl _ l⟩).2
  intro c r hc hr
  exact ⟨hr.1.performBy hc, hr.2.trans (hr.1.spares_performBy htenants hc)⟩

/-- Tenants are isolated, for any number of parties, any duties in any order, and a store of which
any call may fail. Whatever was done before, the `next` duty leaves every node that another party
wrote last as it is, and between two such nodes it removes no edge and adds none. -/
theorem isolated {w : ι → Writer} {watched : ι → String → Prop} (htenants : Tenants w watched)
    {s : UnreliableStore} (hnumbered : s.graph.Numbered) (hsingle : s.graph.SingleLabelled)
    {turns : List (ι × Duty)} {next : ι × Duty}
    (habout : ∀ turn ∈ turns ++ [next], turn.2.IsAbout (watched turn.1)) :
    let before := (ofStore s).workAll w turns
    let after := before.work w next
    (∀ n ∈ before.graph.nodes, ∀ j, next.1 ≠ j → before.author n.id = some j →
        n ∈ after.graph.nodes)
      ∧ ∀ n ∈ before.graph.nodes, ∀ m ∈ before.graph.nodes, ∀ j j', next.1 ≠ j → next.1 ≠ j' →
          before.author n.id = some j → before.author m.id = some j' → ∀ rel,
          (⟨n.id, rel, m.id⟩ ∈ after.graph.edges ↔ ⟨n.id, rel, m.id⟩ ∈ before.graph.edges) := by
  intro before after
  have hrecords : before.Records w watched :=
    (records_ofStore hnumbered hsingle).workAll fun turn hturn =>
      habout turn (List.mem_append_left _ hturn)
  have hspares : Spares next.1 before after :=
    hrecords.spares_work htenants (habout next (by simp))
  refine ⟨fun n hn j hj hauthor => ?_, fun n hn m hm j j' hj hj' hauthor hauthor' rel => ?_⟩
  · exact (hspares.nodes n ⟨hn, j, hj, hauthor⟩).1
  · exact hspares.edges n m ⟨hn, j, hj, hauthor⟩ ⟨hm, j', hj', hauthor'⟩ rel

/-- A shop and a bank that share a graph and watch one pod each. -/
def neighbours (shop : Bool) : Writer :=
  ⟨⟨if shop then "shop" else "bank", "new"⟩, OwnerKinds.empty⟩

def podOf (shop : Bool) (uid : String) : Prop :=
  uid = if shop then "a" else "b"

/-- A graph with the pod of the bank, signed by an earlier instance of the shop. -/
def contested : UnreliableStore :=
  .ofStore (.ofGraph ⟨1, [⟨0, ["Pod"], Dict.ofList [(Key.uid, .text "b"),
    (Key.clusterName, .text "shop"), (Key.instanceHash, .text "old")]⟩], []⟩) fun _ _ => none

def bankWrites : Bool × Duty :=
  (false, .create ⟨0, 0⟩ .pod
    (.typed .pod ⟨⟨some "b", none, none, none, none, none, []⟩, none, none⟩))

def shopSweeps : Bool × Duty :=
  (true, .sweep ["Pod"])

/-- A run to which `isolated` applies: once the bank has written its pod, the sweep of the shop
leaves it alone. -/
theorem isolated_neighbours :
    let before := (ofStore contested).workAll neighbours [bankWrites]
    before.graph.nodes.length = 1
      ∧ ∀ n ∈ before.graph.nodes, n ∈ (before.work neighbours shopSweeps).graph.nodes := by
  have htenants : Tenants neighbours podOf := by
    refine ⟨by decide, by decide, fun {i j} hij uid hi hj => hij ?_⟩
    unfold podOf at hi hj
    rw [hi] at hj
    cases i <;> cases j <;> first | rfl | exact absurd hj (by decide)
  have habout : ∀ turn ∈ [bankWrites] ++ [shopSweeps], turn.2.IsAbout (podOf turn.1) := by
    refine List.forall_mem_cons.mpr ⟨fun o hconvert uid huid => ?_,
      List.forall_mem_singleton.mpr trivial⟩
    cases hconvert
    exact (Option.some.inj huid).symm
  have hnumbered : contested.graph.Numbered := ⟨by decide, by decide⟩
  have hsingle : contested.graph.SingleLabelled := by
    intro n hn
    rw [List.mem_singleton.mp hn]
    exact ⟨"Pod", rfl⟩
  obtain ⟨hnodes, -⟩ := isolated htenants hnumbered hsingle habout
  have hauthor : ∀ n ∈ ((ofStore contested).workAll neighbours [bankWrites]).graph.nodes,
      ((ofStore contested).workAll neighbours [bankWrites]).author n.id = some false := by
    decide +kernel
  exact ⟨by decide +kernel, fun n hn => hnodes n hn false (by decide) (hauthor n hn)⟩

end Ledger
end ClusterGraph
