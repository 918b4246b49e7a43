import ClusterGraph.Proofs.Client.Wording
import ClusterGraph.Proofs.Graph.Sentences
import ClusterGraph.Proofs.Store.Upserting

/-!
# ClusterGraph.Proofs.Client.Binding

**What builders put into a statement, and what the arguments of a request are for.**

A builder writes names out and leaves a parameter for everything else. So its texts tell names
apart and nothing but names (`Statement.Faithful`): what was given can be read off a text up to the
values and the clusters of references, which never show. This is shown by taking texts apart again,
as sentences.

The arguments of a link are the parameters of its statement. For an upsert there is one exception.
The parameter for its key has the name of the key, and the one for its record has a fixed name, so
under a key of that name there is one parameter for both, and the record is what it stands for
(`Upsert.requests_own_merge`).
-/

namespace ClusterGraph

/-! ## Sentences of the builders -/

/-- The pattern for a reference whose node is called `v`. -/
def NodePattern.ofRef (v : String) (ref : NodeRef) : NodePattern :=
  ⟨v, [ref.label], ref.key, v ++ "_value", ref.cluster.map fun _ => v ++ "_cluster"⟩

theorem NodePattern.worded_ofRef {v : String} (hv : IsWord v) {ref : NodeRef}
    (hlabel : IsName ref.label) (hkey : IsName ref.key) : (ofRef v ref).Worded where
  variable_ := hv
  labels := List.forall_mem_singleton.mpr hlabel.isWord
  key := hkey.isWord
  parameter := hv.append (by decide)
  cluster := by
    intro parameter hparameter
    obtain ⟨cluster, -, rfl⟩ := Option.map_eq_some_iff.mp hparameter
    exact hv.append (by decide)

namespace Sentence

/-- The statement of an upsert as a tree. The parameter for the scalar is called like the key. -/
def ofUpsert (labels : List String) (key : String) : Sentence :=
  .merge ⟨"n", labels, key, key, none⟩ "properties"

/-- The statement of a deletion as a tree. -/
def ofDelete (label key : String) : Sentence :=
  .delete ⟨"n", [label], key, "value", none⟩

/-- The statement of a link as a tree. -/
def ofLink (source : NodeRef) (rel : Relationship) (target : NodeRef) : Sentence :=
  .link (.ofRef "a" source) rel (.ofRef "b" target)

variable {label key : String} {labels : List String} {source target : NodeRef}

theorem isWord_node : IsWord "n" := by
  decide

theorem worded_ofUpsert (hkey : IsName key) (hlabels : ∀ label ∈ labels, IsName label) :
    (ofUpsert labels key).Worded := by
  have hrecord : IsWord "properties" := by decide
  exact ⟨⟨isWord_node, fun label hlabel => (hlabels label hlabel).isWord, hkey.isWord, hkey.isWord,
    nofun⟩, hrecord⟩

theorem worded_ofDelete (hlabel : IsName label) (hkey : IsName key) :
    (ofDelete label key).Worded := by
  have hvalue : IsWord "value" := by decide
  exact ⟨isWord_node, List.forall_mem_singleton.mpr hlabel.isWord, hkey.isWord, hvalue, nofun⟩

theorem worded_ofLink (rel : Relationship) (hsource : IsName source.label ∧ IsName source.key)
    (htarget : IsName target.label ∧ IsName target.key) : (ofLink source rel target).Worded :=
  ⟨NodePattern.worded_ofRef (by decide) hsource.1 hsource.2,
    NodePattern.worded_ofRef (by decide) htarget.1 htarget.2⟩

end Sentence

namespace Statement

section Building

variable {α β : Type} {b : β}

/-- A bind in `Except` succeeds if and only if both of its parts do. -/
theorem bind_eq_ok_iff {x : Except NameError α} {f : α → Except NameError β} :
    (x >>= f) = .ok b ↔ ∃ a, x = .ok a ∧ f a = .ok b := by
  cases x <;> simp [bind, Except.bind]

/-- The same for a check, which has no value. -/
theorem check_bind_eq_ok_iff {check : Except NameError Unit} {f : Unit → Except NameError β} :
    (check >>= f) = .ok b ↔ check = .ok () ∧ f () = .ok b := by
  rw [bind_eq_ok_iff]
  constructor
  · rintro ⟨⟨⟩, hpassed, hbuilt⟩
    exact ⟨hpassed, hbuilt⟩
  · exact fun h => ⟨(), h⟩

theorem checkName_bind_eq_ok_iff {role : NameRole} {name : String}
    {f : Unit → Except NameError β} :
    (checkName role name >>= f) = .ok b ↔ IsName name ∧ f () = .ok b := by
  rw [check_bind_eq_ok_iff, checkName_eq_ok_iff, isIdentifier_iff]

end Building

theorem checkLabels_eq_ok_iff {labels : List String} :
    checkLabels labels = .ok () ↔ ∀ label ∈ labels, IsName label := by
  induction labels with
  | nil => simp [checkLabels]
  | cons label rest ih =>
      rw [List.forall_mem_cons, ← ih, checkLabels, checkName_bind_eq_ok_iff]

/-- The builder `Statement.upsert` succeeds if and only if key and labels are names, with the text
of `Sentence.ofUpsert`. -/
theorem upsert_eq_ok_iff {labels : List String} {key text : String} :
    upsert labels key = .ok text
      ↔ (IsName key ∧ ∀ label ∈ labels, IsName label)
        ∧ (Sentence.ofUpsert labels key).text = text := by
  have htext : "MERGE (n" ++ labelText labels ++ " \x7b" ++ key ++ ": $" ++ key
      ++ "\x7d) SET n = $properties" = (Sentence.ofUpsert labels key).text := by
    refine String.ext ?_
    simp [Sentence.ofUpsert, Sentence.text, Sentence.setting, NodePattern.text,
      NodePattern.narrowingText]
  rw [upsert, checkName_bind_eq_ok_iff, check_bind_eq_ok_iff, checkLabels_eq_ok_iff, htext,
    and_assoc]
  simp only [pure, Except.pure, Except.ok.injEq]

/-- The builder `Statement.delete` succeeds if and only if label and key are names, with the text of
`Sentence.ofDelete`. -/
theorem delete_eq_ok_iff {label key text : String} :
    delete label key = .ok text
      ↔ (IsName label ∧ IsName key) ∧ (Sentence.ofDelete label key).text = text := by
  have htext : "MATCH (n:" ++ label ++ " \x7b" ++ key ++ ": $value\x7d) DETACH DELETE n"
      = (Sentence.ofDelete label key).text := by
    refine String.ext ?_
    simp [Sentence.ofDelete, Sentence.text, Sentence.deletion, NodePattern.text,
      NodePattern.narrowingText]
  rw [delete, checkName_bind_eq_ok_iff, checkName_bind_eq_ok_iff, htext, and_assoc]
  simp only [pure, Except.pure, Except.ok.injEq]

theorem endpoint_eq_ok_iff {v : String} {ref : NodeRef} {text : String} :
    endpoint v ref = .ok text
      ↔ (IsName ref.label ∧ IsName ref.key) ∧ (NodePattern.ofRef v ref).text = text := by
  have htext : "(" ++ v ++ ":" ++ ref.label ++ " \x7b" ++ ref.key ++ ": $" ++ v ++ "_value"
      ++ (if ref.cluster.isSome then ", " ++ Key.clusterName ++ ": $" ++ v ++ "_cluster" else "")
      ++ "\x7d)" = (NodePattern.ofRef v ref).text := by
    refine String.ext ?_
    cases hcluster : ref.cluster <;>
      simp [NodePattern.ofRef, NodePattern.text, NodePattern.narrowingText,
        NodePattern.narrowing, hcluster]
  rw [endpoint, checkName_bind_eq_ok_iff, checkName_bind_eq_ok_iff, and_assoc]
  simp only [htext, pure, Except.pure, Except.ok.injEq]

/-- The builder `Statement.relationship` succeeds if and only if labels and keys of both ends are
names, with the text of `Sentence.ofLink`. -/
theorem relationship_eq_ok_iff {source target : NodeRef} {rel : Relationship} {text : String} :
    relationship source rel target = .ok text
      ↔ ((IsName source.label ∧ IsName source.key) ∧ IsName target.label ∧ IsName target.key)
        ∧ (Sentence.ofLink source rel target).text = text := by
  have htext : ∀ a b : String, "MATCH " ++ a ++ ", " ++ b ++ " MERGE (a)-[:" ++ rel.text ++ "]->(b)"
      = "MATCH " ++ a ++ ", " ++ b ++ Sentence.linkFrom (.ofRef "a" source) ++ rel.text
        ++ Sentence.linkTo (.ofRef "b" target) := by
    intro a b
    refine String.ext ?_
    simp [Sentence.linkFrom, Sentence.linkTo, NodePattern.ofRef]
  rw [relationship, bind_eq_ok_iff]
  constructor
  · rintro ⟨a, ha, hrest⟩
    obtain ⟨b, hb, hbuilt⟩ := bind_eq_ok_iff.mp hrest
    obtain ⟨hsource, rfl⟩ := endpoint_eq_ok_iff.mp ha
    obtain ⟨htarget, rfl⟩ := endpoint_eq_ok_iff.mp hb
    cases hbuilt
    exact ⟨⟨hsource, htarget⟩, (htext _ _).symm⟩
  · rintro ⟨⟨hsource, htarget⟩, rfl⟩
    have ha : endpoint "a" source = .ok _ := endpoint_eq_ok_iff.mpr ⟨hsource, rfl⟩
    have hb : endpoint "b" target = .ok _ := endpoint_eq_ok_iff.mpr ⟨htarget, rfl⟩
    exact ⟨_, ha, bind_eq_ok_iff.mpr ⟨_, hb, congrArg Except.ok (htext _ _)⟩⟩

/-! ## Faithful builders -/

/-- Specification of a builder: it succeeds if and only if all `names` of its argument satisfy
`IsName`; its result depends on the `form` of the argument alone (`congr`), and the form can be told
from the text (`inj`). -/
structure Faithful {α β : Type} (build : α → Except NameError String) (names : α → List String)
    (form : α → β) : Prop where
  succeeds_iff : ∀ a, (∃ text, build a = .ok text) ↔ ∀ name ∈ names a, IsName name
  congr : ∀ a b, form a = form b → build a = build b
  inj : ∀ a b text, build a = .ok text → build b = .ok text → form a = form b

theorem faithful_upsert :
    Faithful (fun x : List String × String => upsert x.1 x.2) (fun x => x.2 :: x.1) id where
  succeeds_iff x := by
    simp [upsert_eq_ok_iff]
  congr x y h := by
    cases (h : x = y)
    rfl
  inj x y text hx hy := by
    obtain ⟨⟨hkey, hlabels⟩, rfl⟩ := upsert_eq_ok_iff.mp hx
    obtain ⟨⟨hkey', hlabels'⟩, htext⟩ := upsert_eq_ok_iff.mp hy
    have h := Sentence.text_inj (Sentence.worded_ofUpsert hkey' hlabels')
      (Sentence.worded_ofUpsert hkey hlabels) htext
    simp only [Sentence.ofUpsert, Sentence.merge.injEq, NodePattern.mk.injEq] at h
    exact Prod.ext h.1.2.1.symm h.1.2.2.1.symm

theorem faithful_delete :
    Faithful (fun x : String × String => delete x.1 x.2) (fun x => [x.1, x.2]) id where
  succeeds_iff x := by
    simp [delete_eq_ok_iff]
  congr x y h := by
    cases (h : x = y)
    rfl
  inj x y text hx hy := by
    obtain ⟨⟨hlabel, hkey⟩, rfl⟩ := delete_eq_ok_iff.mp hx
    obtain ⟨⟨hlabel', hkey'⟩, htext⟩ := delete_eq_ok_iff.mp hy
    have h := Sentence.text_inj (Sentence.worded_ofDelete hlabel' hkey')
      (Sentence.worded_ofDelete hlabel hkey) htext
    simp only [Sentence.ofDelete, Sentence.delete.injEq, NodePattern.mk.injEq, List.cons.injEq] at h
    exact Prod.ext h.2.1.1.symm h.2.2.1.symm

end Statement

/-- What a statement shows of a reference: not its value, and of its cluster only whether it is
given. -/
structure NodeRef.Form where
  label : String
  key : String
  narrowed : Bool
deriving DecidableEq

/-- The form of a reference. -/
def NodeRef.form (ref : NodeRef) : NodeRef.Form :=
  ⟨ref.label, ref.key, ref.cluster.isSome⟩

namespace NodePattern

/-- References with the same pattern have the same form. -/
theorem form_eq_of_ofRef_eq {v : String} {ref other : NodeRef} (h : ofRef v ref = ofRef v other) :
    ref.form = other.form := by
  have hlabel := congrArg labels h
  have hkey := congrArg key h
  have hnarrowed := congrArg (fun p => p.cluster.isSome) h
  simp only [ofRef, List.cons.injEq, and_true, Option.isSome_map] at hlabel hkey hnarrowed
  simp only [NodeRef.form, hlabel, hkey, hnarrowed]

end NodePattern

namespace Statement

theorem endpoint_congr {ref other : NodeRef} (h : ref.form = other.form) (v : String) :
    endpoint v ref = endpoint v other := by
  simp only [NodeRef.form, NodeRef.Form.mk.injEq] at h
  simp only [endpoint, h]

theorem faithful_relationship :
    Faithful (fun l : Link => relationship l.source l.rel l.target)
      (fun l => [l.source.label, l.source.key, l.target.label, l.target.key])
      (fun l => (l.source.form, l.rel, l.target.form)) where
  succeeds_iff l := by
    simp [relationship_eq_ok_iff, and_assoc]
  congr l m h := by
    simp only [Prod.mk.injEq] at h
    obtain ⟨hsource, hrel, htarget⟩ := h
    simp only [relationship, endpoint_congr hsource, endpoint_congr htarget, hrel]
  inj l m text hl hm := by
    obtain ⟨⟨hsource, htarget⟩, rfl⟩ := relationship_eq_ok_iff.mp hl
    obtain ⟨⟨hsource', htarget'⟩, htext⟩ := relationship_eq_ok_iff.mp hm
    have h := Sentence.text_inj (Sentence.worded_ofLink l.rel hsource htarget)
      (Sentence.worded_ofLink m.rel hsource' htarget') htext.symm
    simp only [Sentence.ofLink, Sentence.link.injEq] at h
    rw [NodePattern.form_eq_of_ofRef_eq h.1, h.2.1, NodePattern.form_eq_of_ofRef_eq h.2.2]

end Statement

/-! ## Parameters and arguments -/

/-- The pattern of a reference has a parameter for the value, and one for the cluster if it is
given. -/
theorem NodePattern.mem_parameters_ofRef {v name : String} {ref : NodeRef} :
    name ∈ (ofRef v ref).parameters
      ↔ v ++ "_value" = name ∨ (ref.cluster.isSome ∧ v ++ "_cluster" = name) := by
  cases hcluster : ref.cluster <;> simp [parameters, ofRef, hcluster, eq_comm]

/-- The request of a link binds exactly the parameters that occur in its statement. -/
theorem Link.exists_request {l : Link} {text : String}
    (h : Statement.relationship l.source l.rel l.target = .ok text) :
    ∃ r, l.call.request = .ok (some r) ∧ r.text = text
      ∧ ∀ name, name ∈ parametersIn text.toList ↔ r.arguments.contains name = true := by
  refine ⟨_, Call.request_link h, Call.text_linkRequest l text, fun name => ?_⟩
  obtain ⟨⟨hsource, htarget⟩, rfl⟩ := Statement.relationship_eq_ok_iff.mp h
  rw [Sentence.parametersIn_text (Sentence.worded_ofLink l.rel hsource htarget), Sentence.ofLink,
    Sentence.parameters, List.mem_append, NodePattern.mem_parameters_ofRef,
    NodePattern.mem_parameters_ofRef, Call.contains_linkRequest]

/-- The three builders are `Faithful`: they succeed exactly for names, their texts do not depend on
values and cluster names, and everything else can be told from the text. The request of a link binds
the parameters of its statement and no others. -/
theorem Statement.builders_faithful :
    Faithful (fun x : List String × String => upsert x.1 x.2) (fun x => x.2 :: x.1) id
      ∧ Faithful (fun x : String × String => delete x.1 x.2) (fun x => [x.1, x.2]) id
      ∧ Faithful (fun l : Link => relationship l.source l.rel l.target)
          (fun l => [l.source.label, l.source.key, l.target.label, l.target.key])
          (fun l => (l.source.form, l.rel, l.target.form))
      ∧ ∀ (l : Link) (text : String), relationship l.source l.rel l.target = .ok text →
          ∃ r, l.call.request = .ok (some r) ∧ r.text = text
            ∧ ∀ name, name ∈ parametersIn text.toList ↔ r.arguments.contains name = true :=
  ⟨faithful_upsert, faithful_delete, faithful_relationship, fun _ _ => Link.exists_request⟩

/-- A link from a service to a pod. -/
def Link.toPod (value cluster : String) : Link :=
  ⟨.byNamespacedName "Service" "shop" value cluster, .selects, .byUid "Pod" value⟩

/-- Instances of `builders_faithful`: two labels are told apart from one of the same letters, a
label with other characters is refused, and neither the values nor the cluster show in the text of a
link. -/
theorem Statement.builders_faithful_web :
    upsert ["Pod", "Web"] Key.uid ≠ upsert ["PodWeb"] Key.uid
      ∧ (¬∃ text, delete "Pod" "uid\x7d) //" = .ok text)
      ∧ relationship (Link.toPod "web" "east").source .selects (Link.toPod "web" "east").target
          = relationship (Link.toPod "api" "west").source .selects (Link.toPod "api" "west").target
      ∧ ∃ r, (Link.toPod "web" "east").call.request = .ok (some r)
          ∧ ∀ name, name ∈ ["a_value", "a_cluster", "b_value"]
            ↔ r.arguments.contains name = true := by
  obtain ⟨hupsert, hdelete, hlink, hbound⟩ := builders_faithful
  refine ⟨?labels, ?refused, ?blind, ?bound⟩
  case labels =>
    intro hsame
    obtain ⟨text, htext⟩ := (hupsert.succeeds_iff (["PodWeb"], Key.uid)).mpr (by decide)
    have heq := hupsert.inj (["Pod", "Web"], Key.uid) (["PodWeb"], Key.uid) text
      (hsame.trans htext) htext
    exact absurd heq (by decide)
  case refused =>
    intro hwritten
    have hnames := (hdelete.succeeds_iff ("Pod", "uid\x7d) //")).mp hwritten
    exact absurd hnames (by decide)
  case blind => exact hlink.congr (Link.toPod "web" "east") (Link.toPod "api" "west") rfl
  case bound =>
    obtain ⟨text, htext⟩ := (hlink.succeeds_iff (Link.toPod "web" "east")).mpr (by decide)
    obtain ⟨r, hr, -, hnames⟩ := hbound _ _ htext
    refine ⟨r, hr, fun name => ?_⟩
    obtain ⟨hworded, rfl⟩ := relationship_eq_ok_iff.mp htext
    rw [← hnames, Sentence.parametersIn_text (Sentence.worded_ofLink _ hworded.1 hworded.2)]
    simp [Sentence.ofLink, Sentence.parameters, NodePattern.parameters, NodePattern.ofRef, Link.toPod,
      NodeRef.byNamespacedName, NodeRef.byUid]

/-! ## What an upsert asks for -/

/-- The request is the text of a `merge` for a node with `labels` that has `sought` under `key`; and
its arguments are `sought` for the parameter of the key, and `properties` for the record. -/
def Request.Merges (r : Request) (labels : List String) (key : String) (sought : Argument)
    (properties : Properties) : Prop :=
  ∃ v parameter record, (Sentence.merge ⟨v, labels, key, parameter, none⟩ record).Worded
    ∧ r.text = (Sentence.merge ⟨v, labels, key, parameter, none⟩ record).text
    ∧ r.arguments.find? parameter = some sought
    ∧ r.arguments.find? record = some (.record properties)

/-- What a request looks for is determined by the request. -/
theorem Request.Merges.sought_unique {r : Request} {labels labels' : List String}
    {key key' : String} {sought sought' : Argument} {properties properties' : Properties}
    (h : r.Merges labels key sought properties) (h' : r.Merges labels' key' sought' properties') :
    sought = sought' := by
  obtain ⟨v, parameter, record, hworded, htext, hsought, -⟩ := h
  obtain ⟨v', parameter', record', hworded', htext', hsought', -⟩ := h'
  have hsame := Sentence.text_inj hworded hworded' (htext.symm.trans htext')
  simp only [Sentence.merge.injEq, NodePattern.mk.injEq] at hsame
  rw [hsame.1.2.2.2.1, hsought'] at hsought
  exact (Option.some.inj hsought).symm

namespace Upsert

variable {u : Upsert} {r : Request}

/-- The request of an upsert with `value` under its key. The record is bound last, so it replaces
`value` if the key is called `properties` too. -/
def requestFor (u : Upsert) (value : PropertyValue) : Request :=
  ((Request.ofText (Sentence.ofUpsert u.labels u.key).text).bind u.key (.scalar value)).bind
    "properties" (.record u.stored)

/-- Case analysis of the request of an upsert: it is refused, or all names are names and there is a
value under the key. -/
theorem request_cases (u : Upsert) :
    (∃ e, u.call.request = .error e)
      ∨ (IsName u.key ∧ ∀ label ∈ u.labels, IsName label)
        ∧ ∃ value, u.value? = some value ∧ u.call.request = .ok (some (u.requestFor value)) := by
  cases htext : Statement.upsert u.labels u.key with
  | error e =>
      refine .inl ⟨.invalidName e, ?_⟩
      simp only [Call.request, htext]
  | ok text =>
      obtain ⟨hnames, rfl⟩ := Statement.upsert_eq_ok_iff.mp htext
      cases hvalue : u.value? with
      | none =>
          rw [value?, stored] at hvalue
          refine .inl ⟨.missingKey u.key, ?_⟩
          simp only [Call.request, htext, hvalue]
      | some value =>
          rw [value?, stored] at hvalue
          refine .inr ⟨hnames, value, rfl, ?_⟩
          simp only [Call.request, htext, hvalue, requestFor, stored]

theorem request_eq_ok (h : u.call.request = .ok (some r)) :
    (IsName u.key ∧ ∀ label ∈ u.labels, IsName label)
      ∧ ∃ value, u.value? = some value ∧ r = u.requestFor value := by
  rcases u.request_cases with ⟨e, herror⟩ | ⟨hnames, value, hvalue, hrequest⟩
  · cases h.symm.trans herror
  · cases h.symm.trans hrequest
    exact ⟨hnames, value, hvalue, rfl⟩

/-- A request of an upsert `Merges` by the scalar under the key, or by the record if the key is
called `properties`. -/
theorem merges_of_request (h : u.call.request = .ok (some r)) :
    ∃ value, u.value? = some value
      ∧ (u.key ≠ "properties" → r.Merges u.labels u.key (.scalar value) u.stored)
      ∧ (u.key = "properties" → r.Merges u.labels u.key (.record u.stored) u.stored) := by
  obtain ⟨⟨hkey, hlabels⟩, value, hvalue, rfl⟩ := request_eq_ok h
  have hworded := Sentence.worded_ofUpsert hkey hlabels
  refine ⟨value, hvalue, fun hne => ?_, fun heq => ?_⟩
  · refine ⟨"n", u.key, "properties", hworded, rfl, ?_, ?_⟩
    · simp [requestFor, Request.bind, Request.ofText, Dict.find?_insert, Ne.symm hne]
    · simp [requestFor, Request.bind, Dict.find?_insert]
  · refine ⟨"n", u.key, "properties", hworded, rfl, ?_, ?_⟩ <;>
      simp [requestFor, Request.bind, Dict.find?_insert, heq]

/-- If an upsert has a request, it succeeds on every store that can be written. -/
theorem succeeds_of_request (h : u.call.request = .ok (some r)) {s : MemoryStore}
    (hwritable : s.writable = true) : u.Succeeds s := by
  obtain ⟨hnames, value, hvalue, -⟩ := request_eq_ok h
  exact succeeds_iff.mpr
    ⟨hwritable, ⟨_, Statement.upsert_eq_ok_iff.mpr ⟨hnames, rfl⟩⟩, value, hvalue⟩

/-- What the request of an upsert asks for: a node with the scalar of the upsert under its key, if
and only if the key is not `properties`. For that key it looks for the record instead, while a store
in memory goes by the scalar for every key. -/
theorem requests_own_merge (u : Upsert) (r : Request) (h : u.call.request = .ok (some r)) :
    ∃ value, u.value? = some value
      ∧ (r.Merges u.labels u.key (.scalar value) u.stored ↔ u.key ≠ "properties")
      ∧ (r.Merges u.labels u.key (.record u.stored) u.stored ↔ u.key = "properties")
      ∧ ∀ s : MemoryStore, s.writable = true →
          u.Succeeds s ∧ (u.run s).graph = s.graph.upsert u.labels u.key value u.stored := by
  obtain ⟨value, hvalue, hscalar, hrecord⟩ := merges_of_request h
  refine ⟨value, hvalue, ⟨fun hmerges heq => ?_, hscalar⟩, ⟨fun hmerges => ?_, hrecord⟩,
    fun s hwritable => ?_⟩
  · cases hmerges.sought_unique (hrecord heq)
  · by_contra hne
    cases hmerges.sought_unique (hscalar hne)
  · have hsucceeds := succeeds_of_request h hwritable
    exact ⟨hsucceeds, hsucceeds.graph_run hvalue⟩

/-- An upsert of a pod by the key `properties`. -/
def clashing : Upsert :=
  ⟨.direct, ["Pod"], Dict.ofList [("properties", .text "x"), ("phase", .text "Running")],
    "properties"⟩

/-- The request that is sent for `clashing`. -/
def clashingRequest : Request :=
  ⟨"MERGE (n:Pod \x7bproperties: $properties\x7d) SET n = $properties",
    Dict.ofList [("properties", .record clashing.stored)]⟩

/-- Instance of `requests_own_merge`: the request looks for the record, and the store in memory for
the text `x`. -/
theorem requests_own_merge_clashing :
    clashing.value? = some (.text "x")
      ∧ ¬clashingRequest.Merges ["Pod"] "properties" (.scalar (.text "x")) clashing.stored
      ∧ clashingRequest.Merges ["Pod"] "properties" (.record clashing.stored) clashing.stored
      ∧ (clashing.run .empty).graph = ⟨1, [⟨0, ["Pod"], clashing.stored⟩], []⟩ := by
  have hrequest : clashing.call.request = .ok (some clashingRequest) := by decide +kernel
  have htext : clashing.value? = some (.text "x") := by decide +kernel
  obtain ⟨value, hvalue, hscalar, hrecord, hstore⟩ := requests_own_merge _ _ hrequest
  cases hvalue.symm.trans htext
  refine ⟨htext, fun hmerges => hscalar.mp hmerges rfl, hrecord.mpr rfl, ?_⟩
  rw [(hstore .empty rfl).2]
  decide +kernel

/-- Counterexample: the request of `clashing` does not look for its scalar. -/
theorem not_requests_own_scalar :
    ¬∀ (u : Upsert) (r : Request), u.call.request = .ok (some r) →
      ∃ value, u.value? = some value ∧ r.Merges u.labels u.key (.scalar value) u.stored := by
  intro h
  have hrequest : clashing.call.request = .ok (some clashingRequest) := by decide +kernel
  obtain ⟨value, -, hscalar⟩ := h _ _ hrequest
  obtain ⟨-, -, -, hrecord⟩ := merges_of_request hrequest
  cases hscalar.sought_unique (hrecord rfl)

end Upsert
end ClusterGraph
