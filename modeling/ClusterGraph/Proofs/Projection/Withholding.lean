import ClusterGraph.Proofs.Projection.Matching
import ClusterGraph.Proofs.Resource.Redaction

/-!
# ClusterGraph.Proofs.Projection.Withholding

**The values of a secret have no influence on the graph, and those of a configuration map have one
by the copy in its annotations alone.**

What is done about an object is settled by what it tells and what it is linked to. Both are the
same for a secret and for what is left of it without its values (`Sync.write_redacted`), so
secrets that agree otherwise are followed by one plan, and there is no telling them apart for any
store. A configuration map tells all its annotations. If one of them holds a copy of the values,
these are in the graph, and nothing else lets them in (`Sync.configuration_withheld`).
-/

namespace ClusterGraph

/-! ## What is told -/

/-- The property `Json.ofKeys?` depends on the keys of a dictionary alone. -/
theorem Json.ofKeys?_map {α β : Type} (d : Option (Dict α)) (f : α → β) :
    Json.ofKeys? (d.map (·.map f)) = Json.ofKeys? d := by
  cases d with
  | none => rfl
  | some d => simp [Json.ofKeys?]

/-- Of `metadataFields`, only the field `annotations` depends on the annotations. -/
theorem exists_metadataFields_eq (id : Identity) (uid : String) (m : ObjectMeta) :
    ∃ before after, ∀ annotations, metadataFields id uid { m with annotations }
      = before ++ (Key.annotations, Json.ofTextMap? annotations) :: after :=
  ⟨[(Key.uid, .text uid), (Key.name, .ofText? m.name), (Key.namespace_, .ofText? m.namespace_),
      (Key.clusterName, .text id.cluster), (Key.instanceHash, .text id.hash)],
    [("labels", .ofTextMap? m.labels), ("creationTimestamp", .ofInstant? m.created)]
      ++ namespacedField m,
    fun _ => rfl⟩

namespace ObjectOf

/-- For a kind that omits no key, `fields` are the metadata fields and the own fields together. -/
theorem fields_of_omittedKeys {k : Kind} (h : omittedKeys k = []) (id : Identity) (now : Instant)
    (uid : String) (o : ObjectOf k) :
    fields id now uid k o
      = Dict.ofList (metadataFields id uid (objectMeta k o) ++ ownFields now k o) := by
  unfold fields
  rw [h]
  exact congrArg Dict.ofList (List.filter_eq_self.mpr fun _ _ => rfl)

end ObjectOf

theorem SecretObject.fields_redacted (o : SecretObject) : o.redacted.fields = o.fields := by
  have hannotations : o.redacted.publicAnnotations = o.publicAnnotations := by
    unfold publicAnnotations redacted ObjectMeta.withoutCopy
    cases o.objectMeta.annotations with
    | none => rfl
    | some d => exact congrArg some (d.erase_erase lastApplied)
  unfold fields
  rw [hannotations]
  exact congrArg (fun keys => [_, ("dataKeys", keys), _, _]) (Json.ofKeys?_map o.data _)

/-- Two configuration maps that agree without their values and without the copy in `lastApplied`,
and have the same annotations, agree without their values. -/
theorem ConfigMapObject.blanked_eq_of_redacted_eq {x y : ConfigMapObject}
    (h : x.redacted = y.redacted) (ha : x.objectMeta.annotations = y.objectMeta.annotations) :
    x.blanked = y.blanked := by
  have hrestored : ∀ o : ConfigMapObject, o.blanked = { o.redacted with
      objectMeta := { o.redacted.objectMeta with annotations := o.objectMeta.annotations } } :=
    fun _ => rfl
  rw [hrestored x, hrestored y, h, ha]

theorem ConfigMapObject.fields_blanked (o : ConfigMapObject) : o.blanked.fields = o.fields := by
  simp only [fields, blanked, Json.ofKeys?_map]

/-- The annotations are a dictionary in order, as all are that are read from JSON. -/
def ObjectMeta.HasOrderedAnnotations (m : ObjectMeta) : Prop :=
  ∀ d, m.annotations = some d → d.Ordered

namespace ObjectOf

/-- The node of a configuration map holds the stored form of all its annotations, `lastApplied`
included. -/
theorem stored_annotations (id : Identity) (now : Instant) (uid : String) (o : ConfigMapObject) :
    (storedProperties (fields id now uid .configMap o)).find? Key.annotations
      = o.objectMeta.annotations.map fun d => .text (storedTextMap d) := by
  have hmem : (Key.annotations, Json.ofTextMap? o.objectMeta.annotations)
      ∈ metadataFields id uid o.objectMeta := by
    simp [metadataFields]
  have hown : ∀ f ∈ ownFields now .configMap o, f.1 ≠ Key.annotations := by
    simp [ownFields, ConfigMapObject.fields, Key.annotations]
  refine (stored_of_fields rfl (List.mem_append_left _ hmem) fun f hf hkey => ?_).trans
    (Json.stored?_ofTextMap? _)
  rcases List.mem_append.mp hf with hf | hf
  · exact congrArg Prod.snd (List.inj_on_of_nodup_map (nodup_metadataFields _ _ _) hf hmem hkey)
  · exact absurd hkey (hown f hf)

/-- If the properties of the nodes of two configuration maps are the same, so are their
annotations. -/
theorem annotations_eq_of_stored {x y : ConfigMapObject}
    (hx : x.objectMeta.HasOrderedAnnotations) (hy : y.objectMeta.HasOrderedAnnotations)
    {id : Identity} {now : Instant} {uid : String}
    (h : storedProperties (fields id now uid .configMap x)
      = storedProperties (fields id now uid .configMap y)) :
    x.objectMeta.annotations = y.objectMeta.annotations := by
  have htexts := stored_annotations id now uid x
  rw [h, stored_annotations id now uid y] at htexts
  cases hxs : x.objectMeta.annotations with
  | none =>
      rw [hxs] at htexts
      exact (Option.map_eq_none_iff.mp htexts).symm
  | some d =>
      rw [hxs] at htexts
      obtain ⟨e, hys, he⟩ := Option.map_eq_some_iff.mp htexts
      rw [hys, storedTextMap_inj (hx d hxs) (hy e hys) (PropertyValue.text.inj he).symm]

/-- The fields of a secret do not depend on the copy in `lastApplied`, as `publicAnnotations` leave
it out. -/
theorem fields_redacted (id : Identity) (now : Instant) (uid : String) (o : SecretObject) :
    fields id now uid .secret o.redacted = fields id now uid .secret o := by
  obtain ⟨before, after, hmeta⟩ := exists_metadataFields_eq id uid o.objectMeta
  have hown : ownFields now .secret o.redacted = ownFields now .secret o := o.fields_redacted
  have hhidden : Key.annotations ∈ (after ++ ownFields now .secret o).map Prod.fst := by
    simp [ownFields, SecretObject.fields]
  rw [fields_of_omittedKeys rfl, fields_of_omittedKeys rfl, hown]
  show Dict.ofList (metadataFields id uid o.objectMeta.withoutCopy ++ _)
    = Dict.ofList (metadataFields id uid { o.objectMeta with annotations := _ } ++ _)
  rw [ObjectMeta.withoutCopy, hmeta, hmeta, List.append_assoc, List.append_assoc,
    List.cons_append, List.cons_append]
  exact Dict.ofList_of_hidden hhidden before _ _

end ObjectOf

/-! ## What is done -/

namespace Sync

variable (w : Writer) (now : Instant)

/-- Two objects with the same `uid`, the same fields and the same relations have the same plan. -/
theorem write_congr {k : Kind} {x y : ObjectOf k}
    (huid : (ObjectOf.objectMeta k x).uid = (ObjectOf.objectMeta k y).uid)
    (hfields : ∀ uid, ObjectOf.fields w.id now uid k x = ObjectOf.fields w.id now uid k y)
    (hrelate : relate w k x = relate w k y) : write w now k x = write w now k y := by
  have hproperties : properties w now k x = properties w now k y := by
    unfold properties identify
    simp only [huid, hfields]
  unfold write
  rw [hproperties, hrelate]

theorem write_redacted (o : SecretObject) :
    write w now .secret o.redacted = write w now .secret o :=
  write_congr w now rfl (fun uid => ObjectOf.fields_redacted w.id now uid o) rfl

theorem write_blanked (o : ConfigMapObject) :
    write w now .configMap o.blanked = write w now .configMap o := by
  refine write_congr w now rfl (fun uid => ?_) rfl
  rw [ObjectOf.fields_of_omittedKeys rfl, ObjectOf.fields_of_omittedKeys rfl]
  exact congrArg (fun own => Dict.ofList (metadataFields w.id uid o.objectMeta ++ own))
    o.fields_blanked

variable {w now}

theorem create_of_convert {k : Kind} {raw : RawObject} {o : ObjectOf k}
    (h : raw.convert k k.name = .ok o) : create w now k raw = write w now k o := by
  unfold create
  rw [h]

variable {a b : RawObject} {σ : Type}

/-- Secrets are withheld: if two secrets agree in all but the values of their data and the copy in
`lastApplied`, then `create` has the same result for both and leaves the same state, for whoever
performs the calls. So nothing that is stored depends on a value. -/
theorem secrets_withheld (h : a.SecretsAlike b) {x y : SecretObject}
    (ha : a.convert .secret Kind.secret.name = .ok x)
    (hb : b.convert .secret Kind.secret.name = .ok y) (w : Writer) (now : Instant)
    (perform : Plan.Performer σ) (s : σ) :
    (create w now .secret a).run perform s = (create w now .secret b).run perform s := by
  have hplan : create w now .secret a = create w now .secret b :=
    calc create w now .secret a
      _ = write w now .secret x.redacted := by rw [create_of_convert ha, write_redacted]
      _ = write w now .secret y.redacted := by rw [h.redacted_eq ha hb]
      _ = create w now .secret b := by rw [create_of_convert hb, write_redacted]
  rw [hplan]

/-- A secret with a password, of which its `lastApplied` annotation has a copy. -/
def passwordSecret (password : String) : Json :=
  .ofFields
    [ ("kind", .text "Secret"),
      ("metadata", .ofFields
        [ ("uid", .text "s"),
          ("annotations", .ofFields [(lastApplied, .text password), ("team", .text "shop")]) ]),
      ("data", .ofFields [("password", .text password)]) ]

/-- Instance of `secrets_withheld`: the graph is the same for two passwords. -/
theorem secrets_withheld_password :
    let left (password : String) :=
      (create Converted.shopWriter ⟨0, 0⟩ .secret (.unstructured (passwordSecret password))).run
        MemoryStore.perform MemoryStore.empty
    left "aHVudGVyMg==" = left "c2VjcmV0" ∧ (left "c2VjcmV0").2.graph.nodes.length = 1 := by
  have halike : RawObject.SecretsAlike (.unstructured (passwordSecret "aHVudGVyMg=="))
      (.unstructured (passwordSecret "c2VjcmV0")) := .values rfl
  exact ⟨secrets_withheld halike (x := .ofJson (passwordSecret "aHVudGVyMg=="))
    (y := .ofJson (passwordSecret "c2VjcmV0")) rfl rfl _ _ _ _, by decide +kernel⟩

/-- Exactly which configuration maps are told apart, of two that agree in all but their values and
the copy in `lastApplied`. If their annotations are the same, `create` has the same result for both
and leaves the same state, for whoever performs the calls. If they are not, the graphs after
`create` differ, for every store that can be written. -/
theorem configuration_withheld (h : a.ConfigMapsAlike b) {x y : ConfigMapObject}
    (ha : a.convert .configMap Kind.configMap.name = .ok x)
    (hb : b.convert .configMap Kind.configMap.name = .ok y) (w : Writer) (now : Instant) :
    (x.objectMeta.annotations = y.objectMeta.annotations →
        ∀ {σ : Type} (perform : Plan.Performer σ) (s : σ),
          (create w now .configMap a).run perform s = (create w now .configMap b).run perform s)
      ∧ (x.objectMeta.annotations ≠ y.objectMeta.annotations →
        x.objectMeta.HasOrderedAnnotations → y.objectMeta.HasOrderedAnnotations →
        ∀ uid, x.objectMeta.uid = some uid → uid ≠ "" → ∀ s : MemoryStore, s.writable = true →
          (created w now .configMap a s).graph ≠ (created w now .configMap b s).graph) := by
  have hredacted := h.redacted_eq ha hb
  constructor
  · intro hannotations σ perform s
    have hblanked : x.blanked = y.blanked :=
      ConfigMapObject.blanked_eq_of_redacted_eq hredacted hannotations
    rw [create_of_convert ha, create_of_convert hb, ← write_blanked, hblanked, write_blanked]
  · intro hne hx hy uid huid hempty s hs hgraph
    have huid' : y.objectMeta.uid = some uid :=
      (congrArg (fun o : ConfigMapObject => o.objectMeta.uid) hredacted).symm.trans huid
    rw [graph_created w now ha huid hempty hs, graph_created w now hb huid' hempty hs] at hgraph
    have hnodes := congrArg Graph.nodes hgraph
    rw [Graph.nodes_follow, Graph.nodes_follow] at hnodes
    exact hne (ObjectOf.annotations_eq_of_stored hx hy (Graph.properties_eq_of_upsert hnodes))

/-- A configuration map with a value, and a copy of some value in its `lastApplied` annotation. -/
def tunedConfigMap (value copy : String) : ConfigMapObject :=
  ⟨⟨some "c", some "tuning", none, none,
      some (Dict.ofList [(lastApplied, copy), ("team", "shop")]), none, []⟩,
    some (Dict.ofList [("level", value)]), none, none⟩

theorem alike_tunedConfigMap (value copy value' copy' : String) :
    RawObject.ConfigMapsAlike (.typed .configMap (tunedConfigMap value copy))
      (.typed .configMap (tunedConfigMap value' copy')) := by
  have herased : ∀ copy : String, (Dict.ofList [(lastApplied, copy), ("team", "shop")]).erase
      lastApplied = Dict.ofList [("team", "shop")] := by
    intro copy
    rw [Dict.erase_ofList]
    simp [lastApplied]
  refine .objects rfl rfl ?_
  simp only [ConfigMapObject.redacted, ConfigMapObject.blanked, ObjectMeta.withoutCopy,
    tunedConfigMap, Option.map_some, herased]
  rfl

theorem hasOrderedAnnotations_tunedConfigMap (value copy : String) :
    (tunedConfigMap value copy).objectMeta.HasOrderedAnnotations := by
  rintro d ⟨⟩
  exact Dict.ordered_ofList _

/-- Instances of `configuration_withheld`: two maps that differ in the value leave the same graph,
two that differ in the copy do not. -/
theorem configuration_withheld_tuned :
    let left (value copy : String) :=
      created Converted.shopWriter ⟨0, 0⟩ .configMap (.typed .configMap (tunedConfigMap value copy))
        MemoryStore.empty
    left "low" "low" = left "high" "low"
      ∧ (left "low" "low").graph ≠ (left "high" "high").graph := by
  obtain ⟨hsame, -⟩ := configuration_withheld (alike_tunedConfigMap "low" "low" "high" "low")
    rfl rfl Converted.shopWriter ⟨0, 0⟩
  obtain ⟨-, hother⟩ := configuration_withheld (alike_tunedConfigMap "low" "low" "high" "high")
    rfl rfl Converted.shopWriter ⟨0, 0⟩
  refine ⟨congrArg Prod.snd (hsame rfl MemoryStore.perform MemoryStore.empty), ?_⟩
  exact hother (by decide +kernel) (hasOrderedAnnotations_tunedConfigMap _ _)
    (hasOrderedAnnotations_tunedConfigMap _ _) "c" rfl (by decide) MemoryStore.empty rfl

/-- Counterexample: configuration maps that differ in the copy alone leave different graphs. -/
theorem not_configuration_withheld :
    ¬∀ (a b : RawObject) (x y : ConfigMapObject), a.ConfigMapsAlike b →
      a.convert .configMap Kind.configMap.name = .ok x →
      b.convert .configMap Kind.configMap.name = .ok y →
      ∀ (w : Writer) (now : Instant) (s : MemoryStore),
        ((create w now .configMap a).run MemoryStore.perform s).1
            = ((create w now .configMap b).run MemoryStore.perform s).1
          ∧ (created w now .configMap a s).graph = (created w now .configMap b s).graph := by
  intro h
  have hgraph := (h _ _ _ _ (alike_tunedConfigMap "low" "low" "high" "high") rfl rfl
    Converted.shopWriter ⟨0, 0⟩ MemoryStore.empty).2
  have hdiffer : (created Converted.shopWriter ⟨0, 0⟩ .configMap
        (.typed .configMap (tunedConfigMap "low" "low")) MemoryStore.empty).graph
      ≠ (created Converted.shopWriter ⟨0, 0⟩ .configMap
        (.typed .configMap (tunedConfigMap "high" "high")) MemoryStore.empty).graph := by
    decide +kernel
  exact hdiffer hgraph

end Sync
end ClusterGraph
