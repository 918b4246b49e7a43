import ClusterGraph.Proofs.Projection.Following

/-!
# ClusterGraph.Proofs.Projection.Anchoring

**Every relationship that an object calls for is one of its own node.**

What an object names may be anywhere in the graph, and an owner or the object of an event is
named by a bare identifier that no cluster narrows. Still one end of every link is the node of
the object itself (`ObjectOf.isDirect_links`, `ObjectOf.isSelection_of_search?`), so following an
object joins nothing to anything else (`Sync.calls_relate`).

The other end is made from texts of the object, in one of three ways (`Writer.Makes`). Its label
is none of them: it is fixed, or comes from what is registered (`Sync.made_relate`).
-/

namespace ClusterGraph

/-! ## References by name -/

/-- The key of `ref` is one of the three under which objects are found: `uid`, `name` or
`namespacedName`. -/
def NodeRef.IsName (ref : NodeRef) : Prop :=
  ref.key ∈ [Key.uid, Key.name, Key.namespacedName]

namespace NodeRef

theorem isName_byUid (label uid : String) : (byUid label uid).IsName :=
  List.mem_cons_self

theorem isName_byName (label name cluster : String) : (byName label name cluster).IsName :=
  List.mem_cons_of_mem _ List.mem_cons_self

theorem isName_byNamespacedName (label ns name cluster : String) :
    (byNamespacedName label ns name cluster).IsName :=
  List.mem_cons_of_mem _ (List.mem_cons_of_mem _ List.mem_cons_self)

end NodeRef

/-! ## References that a writer makes -/

/-- Labels that links and searches use whatever is registered: those of what an object can name
without its kind, and of the two sides of a selection. -/
def Label.fixed : List String :=
  ["Namespace", "Node", "Pod", "Service", "ConfigMap", "Secret", "PersistentVolumeClaim",
    "PersistentVolume"]

namespace Writer

/-- A label of `Label.fixed`, or one under which `w.owners` has registered a kind. -/
def Knows (w : Writer) (label : String) : Prop :=
  label ∈ Label.fixed ∨ ∃ kind, w.owners.labelFor? kind = some label

/-- The references that links of `w` use. Only `uid`, name and namespace come from objects, the
label never does. -/
inductive Makes (w : Writer) : NodeRef → Prop where
  | byUid {label : String} (hlabel : w.Knows label) (uid : String) : Makes w (.byUid label uid)
  | named {label : String} (hlabel : w.Knows label) (name : String) :
      Makes w (w.named label name)
  | namespaced {label : String} (hlabel : w.Knows label) (ns name : String) :
      Makes w (w.namespaced label ns name)

variable {w : Writer}

theorem knows_fixed {label : String} (h : label ∈ Label.fixed) : w.Knows label :=
  .inl h

theorem knows_registered {kind label : String} (h : w.owners.labelFor? kind = some label) :
    w.Knows label :=
  .inr ⟨kind, h⟩

theorem Makes.isName {ref : NodeRef} (h : w.Makes ref) : ref.IsName := by
  cases h with
  | byUid => exact NodeRef.isName_byUid _ _
  | named => exact NodeRef.isName_byName _ _ _
  | namespaced => exact NodeRef.isName_byNamespacedName _ _ _ _

end Writer

/-! ## Links at a node -/

namespace Link

/-- One end of the link is `self`. -/
def IsAt (self : NodeRef) (l : Link) : Prop :=
  l.source = self ∨ l.target = self

/-- One end of the link is `self`, and the other is one that `w` makes (`Writer.Makes`). -/
inductive IsMade (w : Writer) (self : NodeRef) : Link → Prop where
  | leads (rel : Relationship) {other : NodeRef} (hother : w.Makes other) :
      IsMade w self ⟨self, rel, other⟩
  | comes (rel : Relationship) {other : NodeRef} (hother : w.Makes other) :
      IsMade w self ⟨other, rel, self⟩

/-- A link of `ObjectOf.links`, seen from the node `self` of the object: the other end `IsName`, and
the relationship is not `selects`. -/
inductive IsDirect (self : NodeRef) : Link → Prop where
  | leads {rel : Relationship} {other : NodeRef} (hrel : rel ≠ .selects) (hother : other.IsName) :
      IsDirect self ⟨self, rel, other⟩
  | comes {rel : Relationship} {other : NodeRef} (hrel : rel ≠ .selects) (hother : other.IsName) :
      IsDirect self ⟨other, rel, self⟩

/-- A link of `ObjectOf.search?`, seen from the node `self` of the object: it is a `selects`, in one
direction or the other. -/
inductive IsSelection (self : NodeRef) : Link → Prop where
  | selects (other : NodeRef) : IsSelection self ⟨self, .selects, other⟩
  | selected (other : NodeRef) : IsSelection self ⟨other, .selects, self⟩

variable {w : Writer} {self : NodeRef} {l : Link}

theorem IsMade.isDirect (h : l.IsMade w self) (hrel : l.rel ≠ .selects) : l.IsDirect self := by
  cases h with
  | leads rel hother => exact .leads hrel hother.isName
  | comes rel hother => exact .comes hrel hother.isName

theorem IsMade.isSelection (h : l.IsMade w self) (hrel : l.rel = .selects) :
    l.IsSelection self := by
  cases h with
  | leads rel =>
      cases hrel
      exact .selects _
  | comes rel =>
      cases hrel
      exact .selected _

theorem IsMade.isAt (h : l.IsMade w self) : l.IsAt self := by
  cases h with
  | leads => exact .inl rfl
  | comes => exact .inr rfl

theorem IsDirect.isAt (h : l.IsDirect self) : l.IsAt self := by
  cases h with
  | leads => exact .inl rfl
  | comes => exact .inr rfl

theorem IsDirect.rel_ne (h : l.IsDirect self) : l.rel ≠ .selects := by
  cases h with
  | leads hrel => exact hrel
  | comes hrel => exact hrel

theorem IsSelection.isAt (h : l.IsSelection self) : l.IsAt self := by
  cases h with
  | selects => exact .inl rfl
  | selected => exact .inr rfl

theorem IsSelection.rel_eq (h : l.IsSelection self) : l.rel = .selects := by
  cases h <;> rfl

end Link

/-- The labels of what a pod uses are fixed: configuration maps, claims and secrets. -/
theorem PodSpec.label_of_mem_used {s : PodSpec} {u : String × String} (h : u ∈ s.used) :
    u.1 ∈ Label.fixed := by
  have hfixed : ∀ k ∈ [Kind.configMap, .persistentVolumeClaim, .secret],
      k.name ∈ Label.fixed := by decide
  unfold used at h
  simp only [List.mem_append, List.mem_map] at h
  rcases h with (⟨name, -, rfl⟩ | ⟨name, -, rfl⟩) | ⟨name, -, rfl⟩ <;> exact hfixed _ (by simp)

namespace ObjectOf

variable {w : Writer} {self : NodeRef}

theorem made_metadataLinks (m : ObjectMeta) :
    ∀ l ∈ metadataLinks w self m, l.IsMade w self ∧ l.rel ≠ .selects := by
  unfold metadataLinks membership ownerLink?
  rw [List.forall_mem_append]
  constructor
  · intro l hl
    obtain ⟨owner, -, howner⟩ := List.mem_filterMap.mp hl
    obtain ⟨label, hlabel, rfl⟩ := Option.map_eq_some_iff.mp howner
    refine ⟨.comes _ (.byUid (Writer.knows_registered hlabel) _), ?_⟩
    dsimp only
    split <;> nofun
  · intro l hl
    obtain ⟨ns, -, rfl⟩ := List.mem_map.mp hl
    exact ⟨.leads _ (.named (Writer.knows_fixed (by decide)) _), nofun⟩

theorem made_scaleLinks (m : ObjectMeta) (target : ScaleTarget) :
    ∀ l ∈ scaleLinks w self m target, l.IsMade w self ∧ l.rel ≠ .selects := by
  unfold scaleLinks
  split
  · rename_i hlabel _
    intro l hl
    rw [List.mem_singleton.mp hl]
    exact ⟨.leads _ (.namespaced (Writer.knows_registered hlabel) _ _), nofun⟩
  · exact fun _ hl => absurd hl List.not_mem_nil

theorem made_podLinks (o : PodObject) :
    ∀ l ∈ PodObject.links w self o, l.IsMade w self ∧ l.rel ≠ .selects := by
  unfold PodObject.links
  rw [List.forall_mem_append]
  constructor
  · intro l hl
    obtain ⟨name, -, rfl⟩ := List.mem_map.mp hl
    exact ⟨.leads _ (.named (Writer.knows_fixed (by decide)) _), nofun⟩
  · split
    · intro l hl
      obtain ⟨used, hused, rfl⟩ := List.mem_map.mp hl
      exact ⟨.leads _ (.namespaced (Writer.knows_fixed (PodSpec.label_of_mem_used hused)) _ _),
        nofun⟩
    · exact fun _ hl => absurd hl List.not_mem_nil

theorem made_ownLinks (k : Kind) (o : ObjectOf k) :
    ∀ l ∈ ownLinks w self k o, l.IsMade w self ∧ l.rel ≠ .selects := by
  cases k with
  | pod => exact made_podLinks o
  | ingress =>
      show ∀ l ∈ IngressObject.links w self o, l.IsMade w self ∧ l.rel ≠ .selects
      unfold IngressObject.links
      split
      · intro l hl
        obtain ⟨name, -, rfl⟩ := List.mem_map.mp hl
        exact ⟨.leads _ (.namespaced (Writer.knows_fixed (by decide)) _ _), nofun⟩
      · exact fun _ hl => absurd hl List.not_mem_nil
  | persistentVolumeClaim =>
      intro l hl
      obtain ⟨name, -, rfl⟩ := List.mem_map.mp hl
      exact ⟨.leads _ (.named (Writer.knows_fixed (by decide)) _), nofun⟩
  | persistentVolume =>
      intro l hl
      obtain ⟨claim, -, rfl⟩ := List.mem_map.mp hl
      exact ⟨.comes _ (.namespaced (Writer.knows_fixed (by decide)) _ _), nofun⟩
  | horizontalPodAutoscaler =>
      rw [ownLinks]
      split
      · exact made_scaleLinks _ _
      · exact fun _ hl => absurd hl List.not_mem_nil
  | scaledObject => exact made_scaleLinks _ _
  | event =>
      show ∀ l ∈ EventObject.links w self o, l.IsMade w self ∧ l.rel ≠ .selects
      unfold EventObject.links
      split
      · intro l hl
        obtain ⟨label, hlabel, rfl⟩ := List.mem_map.mp hl
        exact ⟨.leads _ (.byUid (Writer.knows_registered (Option.mem_toList.mp hlabel)) _), nofun⟩
      · exact fun _ hl => absurd hl List.not_mem_nil
  | _ => exact fun _ hl => absurd hl List.not_mem_nil

/-- Every link of `ObjectOf.links` is one that the writer makes, and none is a `selects`. -/
theorem made_links (k : Kind) (o : ObjectOf k) :
    ∀ l ∈ links w self k o, l.IsMade w self ∧ l.rel ≠ .selects := by
  unfold links
  rw [List.forall_mem_append]
  refine ⟨?_, made_ownLinks k o⟩
  split
  · exact made_metadataLinks _
  · exact fun _ hl => absurd hl List.not_mem_nil

/-- Every link of `ObjectOf.links` has the object itself at one end. -/
theorem isDirect_links (k : Kind) (o : ObjectOf k) :
    ∀ l ∈ links w self k o, l.IsDirect self := by
  intro l hl
  obtain ⟨hmade, hrel⟩ := made_links k o l hl
  exact hmade.isDirect hrel

/-- A search of `ObjectOf.search?` is among pods or services, and each link it comes to is a
`selects` that the writer makes. -/
theorem made_of_search? (w : Writer) {k : Kind} {o : ObjectOf k} {s : Search}
    (h : search? self k o = some s) :
    s.label ∈ ["Pod", "Service"]
      ∧ ∀ p l, s.link? p = some l → l.IsMade w self ∧ l.rel = .selects := by
  cases k with
  | pod =>
      have h : PodObject.search? self o = some s := h
      unfold PodObject.search? at h
      split at h
      · cases h
        refine ⟨List.mem_cons_of_mem _ List.mem_cons_self, fun p l hl => ?_⟩
        obtain ⟨selector, -, hl⟩ := Option.bind_eq_some_iff.mp hl
        obtain ⟨uid, -, hl⟩ := Option.bind_eq_some_iff.mp hl
        obtain ⟨-, hl⟩ := Option.ite_none_right_eq_some.mp hl
        cases hl
        exact ⟨.comes _ (.byUid (Writer.knows_fixed (by decide)) _), rfl⟩
      · cases h
  | service =>
      have h : ServiceObject.search? self o = some s := h
      unfold ServiceObject.search? at h
      split at h
      · cases h
        refine ⟨List.mem_cons_self, fun p l hl => ?_⟩
        obtain ⟨uid, -, hl⟩ := Option.bind_eq_some_iff.mp hl
        obtain ⟨-, hl⟩ := Option.ite_none_right_eq_some.mp hl
        cases hl
        exact ⟨.leads _ (.byUid (Writer.knows_fixed (by decide)) _), rfl⟩
      · cases h
  | _ => cases h

/-- Each link that a search comes to is a `selects` with the object itself at one end. -/
theorem isSelection_of_search? {k : Kind} {o : ObjectOf k} {s : Search}
    (h : search? self k o = some s) {p : Properties} {l : Link} (hl : s.link? p = some l) :
    l.IsSelection self := by
  -- Which writer searches makes no difference to where the selections are.
  obtain ⟨hmade, hrel⟩ := (made_of_search? ⟨⟨"", ""⟩, OwnerKinds.empty⟩ h).2 p l hl
  exact hmade.isSelection hrel

end ObjectOf

/-! ## Calls -/

theorem Plan.calls_forEach {α : Type} {f : α → Plan Unit} {items : List α} {c : Call}
    (h : (forEach f items).Calls c) : ∃ a ∈ items, (f a).Calls c := by
  induction items with
  | nil => exact absurd h not_calls_done
  | cons a rest ih =>
      rcases calls_bind h with h | ⟨-, h⟩
      · exact ⟨a, by simp, h⟩
      · obtain ⟨b, hb, h⟩ := ih h
        exact ⟨b, List.mem_cons_of_mem _ hb, h⟩

namespace Sync

theorem calls_linkAll {links : List Link} {c : Call} (h : (linkAll links).Calls c) :
    ∃ l ∈ links, c = l.call := by
  obtain ⟨l, hl, h⟩ := Plan.calls_forEach h
  cases h with
  | here => exact ⟨l, hl, rfl⟩
  | later _ h => exact absurd h Plan.not_calls_done

/-- The calls of `relate` are a search among pods or services, and links between the node of the
object and a reference that `w` makes. -/
theorem made_relate {w : Writer} {k : Kind} {o : ObjectOf k} {c : Call}
    (h : (relate w k o).Calls c) :
    (∃ s : Search, c = s.call w ∧ s.label ∈ ["Pod", "Service"])
      ∨ ∃ l : Link, c = l.call ∧ l.IsMade w (self k (ObjectOf.objectMeta k o)) := by
  rcases Plan.calls_bind h with h | ⟨-, h⟩
  · obtain ⟨l, hl, rfl⟩ := calls_linkAll h
    exact .inr ⟨l, rfl, (ObjectOf.made_links k o l hl).1⟩
  · cases hsearch : ObjectOf.search? (self k (ObjectOf.objectMeta k o)) k o with
    | none =>
        simp only [hsearch] at h
        exact absurd h Plan.not_calls_done
    | some s =>
        obtain ⟨hlabel, hmade⟩ := ObjectOf.made_of_search? w hsearch
        simp only [hsearch] at h
        cases h with
        | here => exact .inl ⟨s, rfl, hlabel⟩
        | later answer h =>
            cases answer with
            | error e => exact absurd h Plan.not_calls_done
            | ok found =>
                obtain ⟨l, hl, rfl⟩ := calls_linkAll h
                obtain ⟨p, -, hl⟩ := List.mem_filterMap.mp hl
                exact .inr ⟨l, rfl, (hmade p l hl).1⟩

/-- The calls of `relate` are lists, and links with the node of the object at one end. -/
theorem calls_relate {w : Writer} {k : Kind} {o : ObjectOf k} {c : Call}
    (h : (relate w k o).Calls c) :
    (∃ label filters, c = .list label filters)
      ∨ ∃ l : Link, c = l.call ∧ l.IsAt (self k (ObjectOf.objectMeta k o)) := by
  rcases made_relate h with ⟨s, rfl, -⟩ | ⟨l, rfl, hmade⟩
  · exact .inl ⟨_, _, rfl⟩
  · exact .inr ⟨l, rfl, hmade.isAt⟩

/-- The calls of `create` are the upsert of the node of the object, under its `uid`, and those of
`relate`. -/
theorem calls_create {w : Writer} {now : Instant} {k : Kind} {raw : RawObject} {c : Call}
    (h : (create w now k raw).Calls c) :
    ∃ (o : ObjectOf k) (uid : String), raw.convert k k.name = .ok o
      ∧ (ObjectOf.objectMeta k o).uid = some uid
      ∧ (c = .upsert .direct [k.name] (ObjectOf.fields w.id now uid k o) Key.uid
        ∨ (relate w k o).Calls c) := by
  rcases create_cases w now k raw with ⟨e, he⟩ | ⟨o, uid, hconvert, huid, -, hcall⟩
  · rw [he] at h
    exact absurd h Plan.not_calls_done
  · rw [hcall] at h
    refine ⟨o, uid, hconvert, huid, ?_⟩
    cases h with
    | here => exact .inl rfl
    | later answer h =>
        cases answer with
        | error e => exact absurd h Plan.not_calls_done
        | ok _ => exact .inr ((Plan.calls_bind h).resolve_right fun ⟨_, h⟩ => Plan.not_calls_done h)

/-- The one call of `delete` deletes the node with the `uid` of the object. For events there is
none. -/
theorem calls_delete {k : Kind} {raw : RawObject} {c : Call} (h : (delete k raw).Calls c) :
    k ≠ .event ∧ ∃ uid, raw.uid? = some uid ∧ c = .delete k.name Key.uid uid := by
  rcases delete_cases k raw with ⟨result, hresult⟩ | ⟨hk, uid, huid, -, hcall⟩
  · rw [hresult] at h
    exact absurd h Plan.not_calls_done
  · rw [hcall] at h
    refine ⟨hk, uid, huid, ?_⟩
    cases h with
    | here => rfl
    | later answer h => cases answer <;> exact absurd h Plan.not_calls_done

end Sync

end ClusterGraph
