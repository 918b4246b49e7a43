import ClusterGraph.Proofs.Projection.Converging

/-!
# ClusterGraph.Proofs.Projection.Timing

**When an object is followed makes no difference but to the time at which an event was recorded.**

The clock is read for one property of one kind. So what is written at two times differs in that
property at most (`ObjectOf.lasting_fields`). Nodes that differ in nothing else (`SameNodes`) are
meant by the same references and found by the same searches, so the same relationships are made
among them (`Graph.SameButTimes.join`).
-/

namespace ClusterGraph

theorem Node.lasting_mono {labels more : List String} (hmore : labels ⊆ more) {p q : Properties}
    (h : lasting labels p = lasting labels q) : lasting more p = lasting more q := by
  unfold lasting at h ⊢
  by_cases hevent : Label.event ∈ labels
  · rw [if_pos (by simpa using hevent), if_pos (by simpa using hevent)] at h
    rw [if_pos (by simpa using hmore hevent), if_pos (by simpa using hmore hevent), h]
  · rw [if_neg (by simpa using hevent), if_neg (by simpa using hevent)] at h
    rw [h]

/-! ## Nodes that differ in times of recording -/

/-- Two lists of nodes that agree in numbers and contents, one by one. -/
def SameNodes (ns ms : List Node) : Prop :=
  List.Forall₂ (fun n m => n.id = m.id ∧ n.content = m.content) ns ms

theorem SameNodes.refl (ns : List Node) : SameNodes ns ns :=
  List.forall₂_same.mpr fun _ _ => ⟨rfl, rfl⟩

section SameNodes

variable {ns ms : List Node} (h : SameNodes ns ms)

include h

/-- If `test` and `f` look at numbers and contents alone, filtering and mapping gives the same for
both lists. -/
theorem SameNodes.map_filter {α : Type} {test : Node → Bool} {f : Node → α}
    (htest : ∀ {n m : Node}, n.content = m.content → test n = test m)
    (hf : ∀ {n m : Node}, n.id = m.id → n.content = m.content → f n = f m) :
    (ns.filter test).map f = (ms.filter test).map f := by
  induction h with
  | nil => rfl
  | @cons n m ns ms hsame _ ih =>
      have hm := htest hsame.2
      cases hn : test n with
      | true =>
          rw [hn] at hm
          rw [List.filter_cons_of_pos hn, List.filter_cons_of_pos hm.symm, List.map_cons,
            List.map_cons, hf hsame.1 hsame.2, ih]
      | false =>
          rw [hn] at hm
          rw [List.filter_cons_of_neg (by simp [hn]), List.filter_cons_of_neg (by simp [← hm]), ih]

theorem Link.edges_of_sameNodes {l : Link} (hl : l.IsLasting) : l.edges ns = l.edges ms := by
  have hbetween (sources targets : List Node) : Graph.edgesBetween sources l.rel targets
      = (sources.map Node.id).flatMap fun s =>
          (targets.map Node.id).map fun t => ⟨s, l.rel, t⟩ := by
    simp [Graph.edgesBetween, List.flatMap_map, Function.comp_def]
  unfold edges
  rw [hbetween, hbetween,
    h.map_filter (fun hsame => Node.isMeantBy_of_content hsame hl.1) fun hid _ => hid,
    h.map_filter (fun hsame => Node.isMeantBy_of_content hsame hl.2) fun hid _ => hid]

theorem ObjectOf.relations_of_sameNodes (w : Writer) (k : Kind) (o : ObjectOf k) :
    relations w k o ns = relations w k o ms := by
  unfold relations
  cases hsearch : search? (Sync.self k (objectMeta k o)) k o with
  | none => rfl
  | some s =>
      have hlink {n m : Node} (hsame : n.content = m.content) :
          s.link? n.properties = s.link? m.properties :=
        (search?_lasting (NodeRef.isLasting_byUid _ _) hsearch
          fun _ hkey => Node.find?_of_content hsame hkey).1
      have hfound : s.found w ns = s.found w ms := by
        have hlinks := h.map_filter (s.isCandidate_of_content w) fun _ hsame => hlink hsame
        simpa [Search.found, List.filterMap_map] using congrArg (List.filterMap id) hlinks
      exact congrArg (_ ++ ·) hfound

end SameNodes

/-! ## Graphs that differ in times of recording -/

namespace Graph

/-- Graphs that agree in everything but the `createdAt` of events. -/
structure SameButTimes (g h : Graph) : Prop where
  nextId : g.nextId = h.nextId
  nodes : SameNodes g.nodes h.nodes
  edges : g.edges = h.edges

theorem SameButTimes.refl (g : Graph) : g.SameButTimes g :=
  ⟨rfl, .refl _, rfl⟩

/-- Upserts with properties that agree but for `createdAt` lead to graphs that agree but for it. -/
theorem SameButTimes.upsert (g : Graph) {label : String} {p q : Properties}
    (h : Node.lasting [label] p = Node.lasting [label] q) (key : String) (value : PropertyValue) :
    (g.upsert [label] key value p).SameButTimes (g.upsert [label] key value q) := by
  rcases g.upsert_cases [label] key value p with
    ⟨before, n, after, hnodes, hbefore, hn, hwritten⟩ | ⟨hnone, hadded⟩
  · rw [hwritten, upsert_of_first hnodes hbefore hn]
    have hlabel : label ∈ n.labels := by
      simpa [Node.hasLabel] using (Bool.and_eq_true_iff.mp hn).1
    have hlasting : Node.lasting n.labels p = Node.lasting n.labels q :=
      Node.lasting_mono (by simpa using hlabel) h
    exact ⟨rfl, List.rel_append (SameNodes.refl before)
      (.cons ⟨rfl, Prod.ext rfl hlasting⟩ (SameNodes.refl after)), rfl⟩
  · rw [hadded, upsert_of_missing hnone]
    exact ⟨rfl, List.rel_append (SameNodes.refl g.nodes) (.cons ⟨rfl, Prod.ext rfl h⟩ .nil), rfl⟩

/-- Lasting links keep graphs that agree but for `createdAt` so. -/
theorem SameButTimes.join {g h : Graph} (hsame : g.SameButTimes h) {links : List Link}
    (hlinks : ∀ l ∈ links, l.IsLasting) : (g.join links).SameButTimes (h.join links) := by
  refine ⟨hsame.nextId, hsame.nodes, ?_⟩
  have hmade : links.flatMap (Link.edges g.nodes) = links.flatMap (Link.edges h.nodes) :=
    List.flatMap_congr fun l hl => Link.edges_of_sameNodes hsame.nodes (hlinks l hl)
  unfold Graph.join
  rw [hmade, hsame.edges]

/-- Following an object at two times leads to graphs that agree but for `createdAt`. -/
theorem sameButTimes_follow (g : Graph) (w : Writer) (now now' : Instant) (k : Kind)
    (o : ObjectOf k) (uid : String) :
    (g.follow w now k o uid).SameButTimes (g.follow w now' k o uid) := by
  have hwritten : (g.writeObject w now k o uid).SameButTimes (g.writeObject w now' k o uid) :=
    .upsert g (ObjectOf.lasting_fields w.id now now' uid k o) _ _
  unfold follow
  dsimp only
  rw [ObjectOf.relations_of_sameNodes hwritten.nodes]
  exact hwritten.join ObjectOf.isLasting_relations

end Graph

namespace Sync

variable {w : Writer} {now : Instant} {k : Kind} {raw : RawObject}

/-- If `create` is `done` without a call, it is so at every time. -/
theorem create_of_refused {r : Except SyncError Unit} (h : create w now k raw = .done r)
    (now' : Instant) : create w now' k raw = .done r := by
  unfold create write properties at h ⊢
  cases hconvert : raw.convert k k.name with
  | error e =>
      rw [hconvert] at h
      exact h
  | ok o =>
      rw [hconvert] at h
      dsimp only at h ⊢
      cases hidentify : identify k.name (ObjectOf.objectMeta k o) with
      | error e =>
          rw [hidentify] at h
          exact h
      | ok uid =>
          rw [hidentify] at h
          cases h

/-- Running `create` at two times has the same result, and leads to graphs that agree but for
`createdAt`. -/
theorem create_at_times (w : Writer) (now now' : Instant) (k : Kind) (raw : RawObject)
    (s : MemoryStore) :
    ((create w now k raw).run MemoryStore.perform s).1
        = ((create w now' k raw).run MemoryStore.perform s).1
      ∧ ((create w now k raw).run MemoryStore.perform s).2.graph.SameButTimes
        ((create w now' k raw).run MemoryStore.perform s).2.graph := by
  rcases create_cases w now k raw with ⟨e, he⟩ | ⟨o, uid, hconvert, huid, hne, -⟩
  · rw [he, create_of_refused he now']
    exact ⟨rfl, .refl _⟩
  · cases h : s.writable with
    | false =>
        rw [run_create_of_not_writable w now hconvert huid hne h,
          run_create_of_not_writable w now' hconvert huid hne h]
        exact ⟨rfl, .refl _⟩
    | true =>
        obtain ⟨upserts, hnow⟩ := run_create w now hconvert huid hne h
        obtain ⟨upserts', hnow'⟩ := run_create w now' hconvert huid hne h
        rw [hnow, hnow']
        exact ⟨rfl, Graph.sameButTimes_follow s.graph w now now' k o uid⟩

end Sync
end ClusterGraph
