import ClusterGraph.Dict.Order

/-!
# ClusterGraph.Proofs.Dict.Bindings

**What is found in a map that was built from a list of bindings, and in one whose values were
changed or left out.**
-/

namespace ClusterGraph
namespace Dict

variable {α β : Type}

/-- Inserting what is found already changes nothing that is found. -/
theorem find?_insert_of_found {d : Dict α} {key : String} {value : α}
    (h : d.find? key = some value) (other : String) :
    (d.insert key value).find? other = d.find? other := by
  rw [find?_insert]
  split
  · rename_i heq
    rw [← heq, h]
  · rfl

/-- What `find?` finds after `bindings` were inserted: the value of the last one with the key, and
what was there before if there is none. -/
theorem find?_foldl_insert (bindings : List (String × α)) (d : Dict α) (key : String) :
    (bindings.foldl (fun d binding => d.insert binding.1 binding.2) d).find? key
      = bindings.foldl (fun found binding => if binding.1 = key then some binding.2 else found)
          (d.find? key) := by
  induction bindings generalizing d with
  | nil => rfl
  | cons binding rest ih =>
      rw [List.foldl_cons, List.foldl_cons, ih, find?_insert]

/-- Bindings of other keys leave what was `found`. -/
theorem foldl_found_of_forall {bindings : List (String × α)} {key : String}
    (h : ∀ binding ∈ bindings, binding.1 ≠ key) (found : Option α) :
    bindings.foldl (fun found binding => if binding.1 = key then some binding.2 else found)
      found = found := by
  induction bindings with
  | nil => rfl
  | cons binding rest ih =>
      rw [List.foldl_cons, if_neg (h binding (by simp))]
      exact ih fun b hb => h b (List.mem_cons_of_mem _ hb)

/-- If one of the bindings has the key, what was `found` before does not matter. -/
theorem foldl_found_of_mem {bindings : List (String × α)} {key : String}
    (h : key ∈ bindings.map Prod.fst) (found found' : Option α) :
    bindings.foldl (fun found binding => if binding.1 = key then some binding.2 else found) found
      = bindings.foldl (fun found binding => if binding.1 = key then some binding.2 else found)
          found' := by
  induction bindings generalizing found found' with
  | nil => cases h
  | cons binding rest ih =>
      rw [List.foldl_cons, List.foldl_cons]
      by_cases hkey : binding.1 = key
      · rw [if_pos hkey, if_pos hkey]
      · refine ih ?_ _ _
        exact (List.mem_cons.mp h).resolve_left fun heq => hkey heq.symm

theorem find?_ofList_eq_none {bindings : List (String × α)} {key : String}
    (h : ∀ binding ∈ bindings, binding.1 ≠ key) : (ofList bindings).find? key = none := by
  unfold ofList
  rw [find?_foldl_insert]
  exact foldl_found_of_forall h _

/-- If all bindings of `key` have the same value, this is the value that is found. -/
theorem find?_ofList_eq_some {bindings : List (String × α)} {key : String} {value : α}
    (hmem : (key, value) ∈ bindings)
    (h : ∀ binding ∈ bindings, binding.1 = key → binding.2 = value) :
    (ofList bindings).find? key = some value := by
  unfold ofList
  rw [find?_foldl_insert]
  generalize (find? empty key) = found
  have hfinal : ∀ rest : List (String × α), (∀ b ∈ rest, b.1 = key → b.2 = value) →
      rest.foldl (fun found b => if b.1 = key then some b.2 else found) (some value)
        = some value := by
    intro rest hrest
    induction rest with
    | nil => rfl
    | cons b rest ih =>
        rw [List.foldl_cons]
        have hb : (if b.1 = key then some b.2 else some value) = some value := by
          split
          · rename_i hkey
            rw [hrest b (by simp) hkey]
          · rfl
        rw [hb]
        exact ih fun c hc => hrest c (List.mem_cons_of_mem _ hc)
  induction bindings generalizing found with
  | nil => cases hmem
  | cons b rest ih =>
      have hrest := fun c hc => h c (List.mem_cons_of_mem b hc)
      rw [List.foldl_cons]
      rcases List.mem_cons.mp hmem with rfl | hmem
      · rw [if_pos rfl]
        exact hfinal rest hrest
      · exact ih hmem hrest _

/-- A binding of `key` before another binding of `key` can have any value. -/
theorem ofList_of_hidden {key : String} {after : List (String × α)}
    (h : key ∈ after.map Prod.fst) (before : List (String × α)) (value value' : α) :
    ofList (before ++ (key, value) :: after) = ofList (before ++ (key, value') :: after) := by
  refine ext_find? (ordered_ofList _) (ordered_ofList _) fun other => ?_
  unfold ofList
  rw [find?_foldl_insert, find?_foldl_insert, List.foldl_append, List.foldl_append,
    List.foldl_cons, List.foldl_cons]
  by_cases hkey : key = other
  · subst hkey
    exact foldl_found_of_mem h _ _
  · rw [if_neg hkey, if_neg hkey]

/-- A dictionary in order is `ofList` of its entries. -/
theorem Ordered.ofList_entries {d : Dict α} (h : d.Ordered) : ofList d.entries = d := by
  refine ext_find? (ordered_ofList _) h fun key => ?_
  cases hfound : d.find? key with
  | none =>
      refine find?_ofList_eq_none ?_
      rintro ⟨other, value⟩ hmem rfl
      rw [h.find?_eq_some_iff.mpr hmem] at hfound
      cases hfound
  | some value =>
      refine find?_ofList_eq_some (h.find?_eq_some_iff.mp hfound) ?_
      rintro ⟨other, found⟩ hmem rfl
      exact Option.some.inj ((h.find?_eq_some_iff.mpr hmem).symm.trans hfound)

theorem erase_ofList (bindings : List (String × α)) (key : String) :
    (ofList bindings).erase key = ofList (bindings.filter fun binding => binding.1 ≠ key) := by
  refine ext_find? ((ordered_ofList _).erase key) (ordered_ofList _) fun other => ?_
  rw [find?_erase]
  unfold ofList
  split
  · rename_i h
    subst h
    have hnone : ∀ binding ∈ bindings.filter fun binding => binding.1 ≠ key,
        binding.1 ≠ key := by
      intro binding hmem
      simpa using (List.mem_filter.mp hmem).2
    rw [find?_foldl_insert, foldl_found_of_forall hnone]
    rfl
  · rename_i h
    rw [find?_foldl_insert, find?_foldl_insert, List.foldl_filter]
    congr 1
    funext found binding
    by_cases hkey : binding.1 = key
    · rw [if_neg (by rw [hkey]; exact h)]
      simp [hkey]
    · simp [hkey]

theorem erase_filterMap (d : Dict α) (f : α → Option β) (key : String) :
    (d.filterMap f).erase key = (d.erase key).filterMap f := by
  obtain ⟨entries⟩ := d
  simp only [erase, filterMap, mk.injEq]
  induction entries with
  | nil => rfl
  | cons entry rest ih =>
      obtain ⟨k, v⟩ := entry
      -- An entry goes for its key or for its value, whichever is looked at first.
      cases hf : f v <;> by_cases hk : k = key <;> simpa [hf, hk] using ih

theorem Ordered.find?_filterMap {d : Dict α} (h : d.Ordered) (f : α → Option β) (key : String) :
    (d.filterMap f).find? key = (d.find? key).bind f := by
  refine Option.ext fun value => ?_
  rw [(h.filterMap f).find?_eq_some_iff, Option.bind_eq_some_iff]
  show (key, value) ∈ d.entries.filterMap _ ↔ _
  rw [List.mem_filterMap]
  constructor
  · intro hgiven
    obtain ⟨⟨k, v⟩, hmem, hv⟩ := hgiven
    obtain ⟨w, hw, heq⟩ := Option.map_eq_some_iff.mp hv
    obtain ⟨rfl, rfl⟩ := Prod.mk.inj heq
    exact ⟨v, h.find?_eq_some_iff.mpr hmem, hw⟩
  · intro hgiven
    obtain ⟨v, hfound, hv⟩ := hgiven
    exact ⟨(key, v), h.find?_eq_some_iff.mp hfound, by rw [hv]; rfl⟩

/-! ## Keys -/

theorem mem_keys_insert {d : Dict α} {key other : String} {value : α} :
    other ∈ (d.insert key value).keys ↔ key = other ∨ other ∈ d.keys := by
  rw [mem_keys, mem_keys, find?_insert]
  by_cases h : key = other <;> simp [h]

theorem mem_keys_erase {d : Dict α} {key other : String} :
    other ∈ (d.erase key).keys ↔ key ≠ other ∧ other ∈ d.keys := by
  rw [mem_keys, mem_keys, find?_erase]
  by_cases h : key = other <;> simp [h]

theorem Ordered.nodup_keys {d : Dict α} (h : d.Ordered) : d.keys.Nodup := by
  unfold keys List.Nodup
  rw [List.pairwise_map]
  refine List.Pairwise.imp (fun {a b} hlt heq => ?_) h
  rw [heq] at hlt
  exact String.lt_irrefl _ hlt

end Dict
end ClusterGraph
