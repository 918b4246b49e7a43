import ClusterGraph.Proofs.Projection.Matching
import ClusterGraph.Proofs.Store.Ownership
import Mathlib.Data.List.Induction

/-!
# ClusterGraph.Proofs.Projection.Selecting

**Which selections are in the graph after objects appeared in some order.**

Whichever of a service and its pod comes last makes the selection, so the order should not matter.
It does in one case: a pod without a specification does not look for services, and one that comes
after its service is never joined to it (`Creation.selections_exact`). A pod with a specification
is, in either order. Creations that fail are passed over (`Creation.succeeds_iff`).

One creation adds the selections that the new object makes, and no others
(`Graph.Resolves.follow`). The new object is the later one of each pair, and this is what turns
"the object that makes the selection" into an order of the two (`Subject.joined_append`).
-/

namespace ClusterGraph

/-! ## Selections as edges -/

/-- Number `id` is that of a node of `x`. -/
def Graph.Stands (g : Graph) (x : Subject) (id : Nat) : Prop :=
  ∃ n ∈ g.nodes, n.id = id ∧ n.key = x.key

section Edges

variable {w : Writer} {g : Graph} {objects : List Subject} {x s p : Subject} {e : Edge}

theorem Graph.exists_isMeantBy_ref_iff (hkeyed : ∀ label, g.KeyedAt label) {id : Nat} :
    (∃ n ∈ g.nodes, n.isMeantBy x.ref = true ∧ n.id = id) ↔ g.Stands x id := by
  refine exists_congr fun n => and_congr_right fun hn => ?_
  rw [and_comm]
  refine and_congr_right fun _ => ?_
  refine Node.isMeantBy_uid.trans ⟨fun ⟨hlabel, huid⟩ => (hkeyed _).key_eq hn hlabel huid, ?_⟩
  intro hkey
  obtain ⟨hlabels, huid⟩ := Graph.key_eq_ofObject_iff.mp hkey
  exact ⟨Node.hasLabel_of_labels_eq hlabels, huid⟩

theorem Subject.mem_edges_selects_iff (hkeyed : ∀ label, g.KeyedAt label) :
    e ∈ Link.edges g.nodes ⟨s.ref, .selects, p.ref⟩
      ↔ e.rel = .selects ∧ g.Stands s e.source ∧ g.Stands p e.target := by
  have hvalid : Link.isValid ⟨s.ref, .selects, p.ref⟩ = true := by
    have huid : isIdentifier Key.uid = true := by decide
    simp [Link.isValid, Subject.ref, NodeRef.byUid, Kind.isIdentifier_name, huid]
  rw [Link.mem_edges, Graph.exists_isMeantBy_ref_iff hkeyed, Graph.exists_isMeantBy_ref_iff hkeyed]
  exact and_iff_right hvalid

/-- The `selects` edges that `x` calls for in `g` are those between the nodes of the pairs that it
makes (`Subject.Makes`). -/
theorem Graph.mem_edges_relations_iff (hkeyed : ∀ label, g.KeyedAt label)
    (hnodes : Subject.ShowsSides w objects g.nodes) (hordered : ∀ y ∈ objects, y.HasOrderedMaps)
    (hx : x ∈ objects) (he : e.rel = .selects) :
    (∃ l ∈ ObjectOf.relations w x.kind x.object g.nodes, e ∈ l.edges g.nodes)
      ↔ ∃ s ∈ objects, ∃ p ∈ objects, x.Makes s p ∧ g.Stands s e.source ∧ g.Stands p e.target := by
  constructor
  · rintro ⟨l, hl, hmem⟩
    have hrel : l.rel = .selects := (Link.mem_edges.mp hmem).2.1.symm.trans he
    obtain ⟨s, hs, p, hp, hmakes, rfl⟩ := (Subject.sees_iff_makes hnodes hordered hx).mp
      ((Subject.mem_relations_iff_sees hrel).mp hl)
    exact ⟨s, hs, p, hp, hmakes, ((Subject.mem_edges_selects_iff hkeyed).mp hmem).2⟩
  · rintro ⟨s, hs, p, hp, hmakes, hstands⟩
    refine ⟨⟨s.ref, .selects, p.ref⟩, ?_, (Subject.mem_edges_selects_iff hkeyed).mpr ⟨he, hstands⟩⟩
    refine (Subject.mem_relations_iff_sees rfl).mpr ?_
    exact (Subject.sees_iff_makes hnodes hordered hx).mpr ⟨s, hs, p, hp, hmakes, rfl⟩

end Edges

/-! ## The order in which two objects appeared -/

namespace Subject

/-- After `objects` were followed in this order, the service `s` is linked to the pod `p`: it
selects the pod, and the pod has a specification or came first. -/
structure Joined (objects : List Subject) (s p : Subject) : Prop where
  service : s ∈ objects
  pod : p ∈ objects
  matched : s.Selects p
  inOrder : p.isSpecified = true ∨ [p, s].Sublist objects

theorem Selects.ne {s p : Subject} (h : s.Selects p) : s ≠ p := by
  rintro rfl
  have hkind := h.service.symm.trans h.pod
  cases hkind

/-- If `b` is not the last object, `a` comes before `b` among those without the last. -/
theorem sublist_of_sublist_append {objects : List Subject} {x a b : Subject}
    (h : [a, b].Sublist (objects ++ [x])) (hne : b ≠ x) : [a, b].Sublist objects := by
  obtain ⟨front, back, hsplit, hfront, hback⟩ := List.sublist_append_iff.mp h
  rcases List.sublist_singleton.mp hback with rfl | rfl
  · rw [hsplit, List.append_nil]
    exact hfront
  · have hlast := congrArg List.getLast? hsplit
    simp at hlast
    exact absurd hlast hne

/-- When `x` comes last, the new pairs are those that `x` makes. -/
theorem joined_append {objects : List Subject} {x s p : Subject}
    (hnew : x.kind.isSide = true → x ∉ objects) :
    Joined (objects ++ [x]) s p
      ↔ Joined objects s p ∨ s ∈ objects ++ [x] ∧ p ∈ objects ++ [x] ∧ x.Makes s p := by
  constructor
  · rintro ⟨hs, hp, hselects, horder⟩
    by_cases hsx : x = s
    · exact .inr ⟨hs, hp, hselects, .inl hsx⟩
    have hbefore : [p, s].Sublist (objects ++ [x]) → [p, s].Sublist objects :=
      fun h => sublist_of_sublist_append h (Ne.symm hsx)
    by_cases hpx : x = p
    -- The pod did not come first, so it has a specification and looked for the service.
    · refine .inr ⟨hs, hp, hselects, .inr ⟨hpx, horder.resolve_right fun h => ?_⟩⟩
      refine hnew (by rw [hpx, hselects.pod]; rfl) ?_
      rw [hpx]
      exact (hbefore h).subset (by simp)
    · left
      have hmem : ∀ y ∈ objects ++ [x], x ≠ y → y ∈ objects := fun y hy hne =>
        (List.mem_append.mp hy).resolve_right fun h => hne (List.mem_singleton.mp h).symm
      exact ⟨hmem s hs hsx, hmem p hp hpx, hselects, horder.imp_right hbefore⟩
  · rintro (⟨hs, hp, hselects, horder⟩ | ⟨hs, hp, hselects, rfl | ⟨rfl, hspec⟩⟩)
    · exact ⟨List.mem_append_left _ hs, List.mem_append_left _ hp, hselects,
        horder.imp_right fun h => h.trans (List.sublist_append_left _ _)⟩
    · refine ⟨hs, hp, hselects, .inr ?_⟩
      have hp : p ∈ objects := (List.mem_append.mp hp).resolve_right fun h =>
        hselects.ne (List.mem_singleton.mp h).symm
      exact (List.singleton_sublist.mpr hp).append (List.Sublist.refl [x])
    · exact ⟨hs, hp, hselects, .inl hspec⟩

end Subject

/-! ## One creation -/

/-- Invariant of a graph after `objects` were followed: their nodes are there, and the `selects`
edges are those between nodes of `Joined` pairs. -/
structure Graph.Resolves (w : Writer) (objects : List Subject) (g : Graph) : Prop where
  numbered : g.Numbered
  single : g.SingleLabelled
  keyed : ∀ label, g.KeyedAt label
  sides : Subject.ShowsSides w objects g.nodes
  selections : ∀ e : Edge, e.rel = .selects → (e ∈ g.edges
    ↔ ∃ s p, Subject.Joined objects s p ∧ g.Stands s e.source ∧ g.Stands p e.target)

/-- No service or pod among `objects` has the key of `x`, if `x` is one. -/
def Subject.IsNew (objects : List Subject) (x : Subject) : Prop :=
  x.kind.isSide = true → ∀ y ∈ objects, y.key ≠ x.key

section Follow

variable {w : Writer} {g : Graph} {objects : List Subject} {x y : Subject} {n : Node} {k : Kind}

/-- A node with the label and the properties of `x` has the content of `x`. -/
theorem Subject.content_of_written {now : Instant} (hlabels : n.labels = [x.kind.name])
    (hproperties : n.properties = x.properties w now) : n.content = x.content w := by
  obtain ⟨id, labels, properties⟩ := n
  cases hlabels
  cases hproperties
  exact x.content_node w now id

/-- Following a new object leaves the nodes of services and pods as they are. -/
theorem Graph.Resolves.mem_follow (h : g.Resolves w objects) (hnew : x.IsNew objects)
    (now : Instant) (hn : n ∈ g.nodes) (hk : k.isSide = true) (hlabel : n.hasLabel k.name = true) :
    n ∈ (x.follow w now g).nodes := by
  refine (exists_mem_upsert hn).resolve_right fun ⟨htarget, _⟩ => ?_
  obtain ⟨hxlabel, huid⟩ := Node.isUpsertTarget_uid.mp htarget
  obtain ⟨y, hy, hkind, hcontent⟩ := h.sides.known n hn k hk hlabel
  have hkey : y.key = x.key :=
    (Subject.key_of_content hcontent).symm.trans ((h.keyed _).key_eq hn hxlabel huid)
  have hsame : y.kind = x.kind := Kind.name_injective (NodeKey.ofObject_inj.mp hkey).1
  exact hnew (by rw [← hsame, hkind, hk]) y hy hkey

/-- A node after `follow` was there before, or has the content of `x`. -/
theorem Graph.Resolves.mem_follow_cases (h : g.Resolves w objects) (now : Instant)
    (hn : n ∈ (x.follow w now g).nodes) : n ∈ g.nodes ∨ n.content = x.content w :=
  (mem_upsert_cases h.single hn).imp_right fun ⟨hlabels, hproperties⟩ =>
    Subject.content_of_written hlabels hproperties

theorem Graph.Resolves.sides_follow (h : g.Resolves w objects) (hnew : x.IsNew objects)
    (now : Instant) : Subject.ShowsSides w (objects ++ [x]) (x.follow w now g).nodes where
  known n hn k hk hlabel := by
    rcases h.mem_follow_cases now hn with hn | hcontent
    · obtain ⟨y, hy, hkind, hcontent⟩ := h.sides.known n hn k hk hlabel
      exact ⟨y, List.mem_append_left _ hy, hkind, hcontent⟩
    · have hname : k.name = x.kind.name :=
        (Node.hasLabel_iff_of_labels_eq (Subject.labels_of_content hcontent)).mp hlabel
      exact ⟨x, by simp, (Kind.name_injective hname).symm, hcontent⟩
  full y hy hside := by
    rcases List.mem_append.mp hy with hy | hy
    · obtain ⟨n, hn, hcontent⟩ := h.sides.full y hy hside
      have hlabels := Subject.labels_of_content hcontent
      exact ⟨n, h.mem_follow hnew now hn hside (Node.hasLabel_of_labels_eq hlabels), hcontent⟩
    · rw [List.mem_singleton.mp hy]
      obtain ⟨n, hn, -, hlabels, hproperties⟩ :=
        exists_upsertId h.single x.kind.name x.uid (x.properties w now)
      exact ⟨n, hn, Subject.content_of_written hlabels hproperties⟩

/-- Following a new object leaves the numbers of the others as they are. -/
theorem Graph.Resolves.stands_follow_iff (h : g.Resolves w objects) (hnew : x.IsNew objects)
    (now : Instant) (hy : y ∈ objects) (hside : y.kind.isSide = true) {id : Nat} :
    (x.follow w now g).Stands y id ↔ g.Stands y id := by
  constructor
  · rintro ⟨n, hn, hid, hkey⟩
    refine ⟨n, (h.mem_follow_cases now hn).resolve_right fun hcontent => ?_, hid, hkey⟩
    have hsame : y.key = x.key := hkey.symm.trans (Subject.key_of_content hcontent)
    have hkind : y.kind = x.kind := Kind.name_injective (NodeKey.ofObject_inj.mp hsame).1
    exact hnew (hkind ▸ hside) y hy hsame
  · rintro ⟨n, hn, hid, hkey⟩
    have hlabels : n.labels = [y.kind.name] := (key_eq_ofObject_iff.mp hkey).1
    exact ⟨n, h.mem_follow hnew now hn hside (Node.hasLabel_of_labels_eq hlabels), hid, hkey⟩

/-- Step lemma of `Resolves`: following a new object keeps it. -/
theorem Graph.Resolves.follow (h : g.Resolves w objects) (hnew : x.IsNew objects)
    (hordered : ∀ y ∈ objects ++ [x], y.HasOrderedMaps) (now : Instant) :
    (x.follow w now g).Resolves w (objects ++ [x]) := by
  have hwritten : ∀ label, (g.writeObject w now x.kind x.object x.uid).KeyedAt label :=
    fun label => (h.keyed label).upsert (ObjectOf.storedUid w.id now x.uid x.kind x.object)
  have hkeyed : ∀ label, (x.follow w now g).KeyedAt label :=
    fun label => (hwritten label).congr nodes_follow.symm
  have hsides := h.sides_follow hnew now
  refine ⟨(h.numbered.upsert _ _ _ _).congr rfl rfl, fun n hn => ?_, hkeyed, hsides,
    fun e he => ?_⟩
  · exact (h.mem_follow_cases now hn).elim (h.single n) fun hcontent =>
      ⟨_, Subject.labels_of_content hcontent⟩
  have hold : e ∈ g.edges ↔ ∃ s p, Subject.Joined objects s p
      ∧ (x.follow w now g).Stands s e.source ∧ (x.follow w now g).Stands p e.target := by
    refine (h.selections e he).trans (exists₂_congr fun s p => and_congr_right fun hjoined => ?_)
    rw [h.stands_follow_iff hnew now hjoined.service (by rw [hjoined.matched.service]; rfl),
      h.stands_follow_iff hnew now hjoined.pod (by rw [hjoined.matched.pod]; rfl)]
  have hmade := mem_edges_relations_iff hkeyed hsides hordered (x := x) (by simp) he
  have hjoined := fun s p =>
    @Subject.joined_append objects x s p fun hside hx => hnew hside x hx rfl
  refine mem_edges_follow.trans ((or_congr hold hmade).trans ?_)
  simp only [hjoined]
  constructor
  · rintro (⟨s, p, hsp, hstands⟩ | ⟨s, hs, p, hp, hmakes, hstands⟩)
    · exact ⟨s, p, .inl hsp, hstands⟩
    · exact ⟨s, p, .inr ⟨hs, hp, hmakes⟩, hstands⟩
  · rintro ⟨s, p, hsp | ⟨hs, hp, hmakes⟩, hstands⟩
    · exact .inl ⟨s, p, hsp, hstands⟩
    · exact .inr ⟨s, hs, p, hp, hmakes, hstands⟩

theorem Graph.resolves_empty (w : Writer) : Graph.empty.Resolves w [] where
  numbered := numbered_empty
  single _ hn := absurd hn List.not_mem_nil
  keyed _ := keyedAt_of_unlabelled fun _ hn => absurd hn List.not_mem_nil
  sides := ⟨fun _ hn => absurd hn List.not_mem_nil, fun _ hx => absurd hx List.not_mem_nil⟩
  selections _ _ := ⟨fun he => absurd he List.not_mem_nil,
    fun ⟨_, _, hjoined, _⟩ => absurd hjoined.service List.not_mem_nil⟩

end Follow

/-! ## Creations in order -/

/-- An object that is followed at `now`, as it is delivered. -/
structure Creation where
  now : Instant
  kind : Kind
  raw : RawObject

namespace Creation

/-- The object that is read, if it has a `uid`. -/
def subject? (c : Creation) : Option Subject :=
  match converts : c.raw.convert c.kind c.kind.name with
  | .ok object => Converted.subject? ⟨c.kind, c.raw, object, converts⟩
  | .error _ => none

/-- The objects of `creations` that are read and have a `uid`, in their order. -/
def subjects (creations : List Creation) : List Subject :=
  creations.filterMap subject?

/-- Follow the object, in a store in memory. -/
def perform (w : Writer) (c : Creation) (s : MemoryStore) : MemoryStore :=
  Sync.created w c.now c.kind c.raw s

/-- Follow the objects of `creations` one after the other. -/
def performAll (w : Writer) (creations : List Creation) (s : MemoryStore) : MemoryStore :=
  creations.foldl (fun s c => c.perform w s) s

section Run

variable {w : Writer} {c : Creation} {creations : List Creation} {s : MemoryStore}

/-- A creation comes to `Subject.follow`, or to nothing if there is no `subject?`. -/
theorem graph_perform (h : s.writable = true) :
    (c.perform w s).graph = c.subject?.elim s.graph fun x => x.follow w c.now s.graph := by
  unfold subject?
  split
  · rename_i object converts
    show (Converted.deliver w c.now ⟨c.kind, c.raw, object, converts⟩ s).graph = _
    cases hsubject : Converted.subject? ⟨c.kind, c.raw, object, converts⟩ with
    | none =>
        rw [Converted.deliver_of_unidentified hsubject]
        rfl
    | some x =>
        rw [← Converted.toConverted_of_subject? hsubject, Subject.graph_deliver h]
        rfl
  · rename_i error hconvert
    simp [perform, Sync.created, Sync.create, hconvert]

/-- A creation succeeds if and only if it has a `subject?`. -/
theorem succeeds_iff (h : s.writable = true) :
    ((Sync.create w c.now c.kind c.raw).run MemoryStore.perform s).1 = .ok ()
      ↔ c.subject?.isSome = true := by
  unfold subject?
  split
  · rename_i object converts
    cases hsubject : Converted.subject? ⟨c.kind, c.raw, object, converts⟩ with
    | none =>
        obtain ⟨e, he⟩ := Sync.create_of_unidentified w c.now converts
          (Converted.uid_of_unidentified hsubject)
        simp [he]
    | some x =>
        obtain ⟨⟨kind, raw, object, converts⟩, uid, identified, named⟩ := x
        cases Converted.toConverted_of_subject? hsubject
        obtain ⟨upserts, hrun⟩ := Sync.run_create w c.now converts identified named h
        simp [hrun]
  · rename_i error hconvert
    simp [Sync.create, hconvert]

theorem performAll_concat (before : List Creation) (c : Creation) (s : MemoryStore) :
    performAll w (before ++ [c]) s = c.perform w (performAll w before s) :=
  List.foldl_append

theorem writable_performAll (creations : List Creation) (h : s.writable = true) :
    (performAll w creations s).writable = true := by
  induction creations generalizing s with
  | nil => exact h
  | cons c rest ih => exact ih (Sync.writable_created w c.now c.kind c.raw h)

theorem isNew_of_nodup {objects : List Subject} {x : Subject}
    (h : (((objects ++ [x]).filter (·.kind.isSide)).map Subject.key).Nodup) : x.IsNew objects := by
  intro hside y hy hkey
  have hyside : y.kind.isSide = true := by
    rw [Kind.name_injective (NodeKey.ofObject_inj.mp hkey).1]
    exact hside
  rw [List.filter_append, List.map_append] at h
  have hold : y.key ∈ (objects.filter (·.kind.isSide)).map Subject.key :=
    List.mem_map_of_mem (List.mem_filter.mpr ⟨hy, hyside⟩)
  exact (List.nodup_append.mp h).2.2 y.key hold x.key (by simp [hside]) hkey

/-- Induction over creations: what holds of the empty graph and is kept when one more subject is
followed holds after any creations. -/
theorem induction {P : List Subject → Graph → Prop} (hempty : P [] Graph.empty)
    (hfollow : ∀ objects g x now, P objects g → P (objects ++ [x]) (x.follow w now g))
    (creations : List Creation) :
    P (subjects creations) (performAll w creations MemoryStore.empty).graph := by
  -- From the end, for what a creation adds depends on all that came before it.
  induction creations using List.reverseRecOn with
  | nil => exact hempty
  | append_singleton before c ih =>
      rw [performAll_concat, graph_perform (writable_performAll before rfl)]
      cases hsubject : c.subject? with
      | none =>
          have hsubjects : subjects (before ++ [c]) = subjects before := by
            simp [subjects, hsubject]
          rw [hsubjects]
          exact ih
      | some x =>
          have hsubjects : subjects (before ++ [c]) = subjects before ++ [x] := by
            simp [subjects, hsubject]
          rw [hsubjects]
          exact hfollow _ _ x c.now ih

/-- Run lemma of `Resolves`: it holds after any creations in which no service or pod comes twice. -/
theorem resolves_performAll (creations : List Creation)
    (hdistinct : (((subjects creations).filter (·.kind.isSide)).map Subject.key).Nodup)
    (hordered : ∀ x ∈ subjects creations, x.HasOrderedMaps) :
    (performAll w creations MemoryStore.empty).graph.Resolves w (subjects creations) := by
  refine induction (P := fun objects g =>
    ((objects.filter (·.kind.isSide)).map Subject.key).Nodup →
      (∀ x ∈ objects, x.HasOrderedMaps) → g.Resolves w objects)
    (fun _ _ => Graph.resolves_empty w) ?_ creations hdistinct hordered
  intro objects g x now ih hdistinct hordered
  have hbefore := ih (hdistinct.sublist (((List.sublist_append_left _ _).filter _).map _))
    fun y hy => hordered y (List.mem_append_left _ hy)
  exact hbefore.follow (isNew_of_nodup hdistinct) hordered now

end Run

/-- The exact `selects` edges, after any creations in which no service or pod comes twice: an edge
leads from the node of a service to that of a pod if and only if the service selects the pod and the
pod has a specification or came first (`Subject.Joined`). Each of the two has one node. -/
theorem selections_exact (w : Writer) (creations : List Creation)
    (hdistinct : (((subjects creations).filter (·.kind.isSide)).map Subject.key).Nodup)
    (hordered : ∀ x ∈ subjects creations, x.HasOrderedMaps) :
    let g := (performAll w creations MemoryStore.empty).graph
    g.Numbered
      ∧ (∀ x ∈ subjects creations, x.kind.isSide = true → ∃! id, g.Stands x id)
      ∧ ∀ e : Edge, e.rel = .selects → (e ∈ g.edges
        ↔ ∃ s p, Subject.Joined (subjects creations) s p
          ∧ g.Stands s e.source ∧ g.Stands p e.target) := by
  intro g
  have hg : g.Resolves w (subjects creations) := resolves_performAll creations hdistinct hordered
  refine ⟨hg.numbered, fun x hx hside => ?_, hg.selections⟩
  obtain ⟨n, hn, hcontent⟩ := hg.sides.full x hx hside
  have hkey := Subject.key_of_content hcontent
  refine ⟨n.id, ⟨n, hn, rfl, hkey⟩, ?_⟩
  rintro _ ⟨m, hm, rfl, hmkey⟩
  rw [(hg.keyed x.kind.name).eq_of_key hm hn hmkey hkey]

/-- Labels of the pods of a shop. -/
def shopLabels : Dict String :=
  Dict.ofList [("app", "web")]

/-- A service that selects these pods. -/
def shopSelector : Subject where
  kind := .service
  raw := .typed .service ⟨⟨some "s", some "web", some "shop", none, none, none, []⟩,
    some ⟨none, none, none, some shopLabels, none⟩⟩
  object := ⟨⟨some "s", some "web", some "shop", none, none, none, []⟩,
    some ⟨none, none, none, some shopLabels, none⟩⟩
  converts := rfl
  uid := "s"
  identified := rfl
  named := by decide

/-- A pod of the shop without a specification. -/
def barePod : Subject where
  kind := .pod
  raw := .typed .pod ⟨⟨some "p", some "web-1", some "shop", some shopLabels, none, none, []⟩,
    none, none⟩
  object := ⟨⟨some "p", some "web-1", some "shop", some shopLabels, none, none, []⟩, none, none⟩
  converts := rfl
  uid := "p"
  identified := rfl
  named := by decide

/-- The pod comes before the service, and after it. -/
def podFirst : List Creation :=
  [⟨⟨0, 0⟩, .pod, barePod.raw⟩, ⟨⟨1, 0⟩, .service, shopSelector.raw⟩]

def podLast : List Creation :=
  [⟨⟨0, 0⟩, .service, shopSelector.raw⟩, ⟨⟨1, 0⟩, .pod, barePod.raw⟩]

theorem shopSelector_selects : shopSelector.Selects barePod where
  service := rfl
  pod := rfl
  together := ⟨"shop", rfl, rfl⟩
  covered := ⟨shopLabels, shopLabels, rfl, rfl, by decide, by decide⟩

theorem hasOrderedMaps_shop : ∀ x ∈ [barePod, shopSelector], x.HasOrderedMaps := by
  have hlabels : shopLabels.Ordered := Dict.ordered_ofList _
  simp only [List.forall_mem_cons, List.not_mem_nil, false_implies, implies_true, and_true]
  refine ⟨⟨?_, nofun⟩, ⟨nofun, ?_⟩⟩
  · rintro _ ⟨⟩
    exact hlabels
  · rintro _ ⟨⟩
    exact hlabels

/-- Instance of `selections_exact`: the pod comes first, so the service finds it although it has no
specification. -/
theorem selections_exact_podFirst :
    ⟨1, .selects, 0⟩
      ∈ (performAll Converted.shopWriter podFirst MemoryStore.empty).graph.edges := by
  have hedges := (selections_exact Converted.shopWriter podFirst (by decide +kernel)
    hasOrderedMaps_shop).2.2
  have horder : [barePod, shopSelector].Sublist (subjects podFirst) := List.Sublist.refl _
  have hjoined : Subject.Joined (subjects podFirst) shopSelector barePod :=
    ⟨horder.subset (by simp), horder.subset (by simp), shopSelector_selects, .inr horder⟩
  refine (hedges ⟨1, .selects, 0⟩ rfl).mpr ⟨shopSelector, barePod, hjoined, ?_, ?_⟩ <;>
    · unfold Graph.Stands
      decide +kernel

/-- Counterexample: if it comes after its service, a pod without a specification is not linked to
it, although the service selects it. -/
theorem not_selected_from_either_side :
    ¬∀ (w : Writer) (creations : List Creation),
      (((subjects creations).filter (·.kind.isSide)).map Subject.key).Nodup →
      (∀ x ∈ subjects creations, x.HasOrderedMaps) →
      let g := (performAll w creations MemoryStore.empty).graph
      ∀ e : Edge, e.rel = .selects → (e ∈ g.edges
        ↔ ∃ s ∈ subjects creations, ∃ p ∈ subjects creations, s.Selects p
          ∧ g.Stands s e.source ∧ g.Stands p e.target) := by
  intro h
  have hordered : ∀ x ∈ subjects podLast, x.HasOrderedMaps := fun x hx =>
    hasOrderedMaps_shop x (List.mem_reverse.mp hx)
  have hedges := h Converted.shopWriter podLast (by decide +kernel) hordered ⟨0, .selects, 1⟩ rfl
  have hnone : (performAll Converted.shopWriter podLast MemoryStore.empty).graph.edges = [] := by
    decide +kernel
  rw [hnone] at hedges
  refine List.not_mem_nil (hedges.mpr ⟨shopSelector, .head _, barePod, .tail _ (.head _),
    shopSelector_selects, ?_, ?_⟩) <;>
    · unfold Graph.Stands
      decide +kernel

end Creation
end ClusterGraph
