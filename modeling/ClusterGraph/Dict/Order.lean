import ClusterGraph.Dict

/-!
# ClusterGraph.Dict.Order

**What the operations on maps do to look-ups, and that they keep the keys in order.**

A look-up after an insertion or a removal is known whatever the map looks like. The order
of the keys is kept by every operation, so whatever is built from the empty map has it; and
two ordered maps in which the same is found everywhere are equal (`Dict.ext_find?`).
-/

namespace ClusterGraph
namespace Dict

variable {α β : Type}

/-! ### Look-ups -/

theorem find?_cons (k key : String) (v : α) (rest : List (String × α)) :
    find? ⟨(k, v) :: rest⟩ key = if k = key then some v else find? ⟨rest⟩ key := by
  by_cases h : k = key <;> simp [find?, h]

theorem find?_insertEntry (key other : String) (value : α) (entries : List (String × α)) :
    find? ⟨insertEntry key value entries⟩ other
      = if key = other then some value else find? ⟨entries⟩ other := by
  induction entries with
  | nil => rw [insertEntry, find?_cons]
  | cons entry rest ih =>
      obtain ⟨k, v⟩ := entry
      rw [insertEntry]
      split
      · rw [find?_cons]
      · split
        · rename_i h
          subst h
          rw [find?_cons, find?_cons]
          split <;> rfl
        · rename_i h
          rw [find?_cons, find?_cons, ih]
          grind

/-- Looking up `other` after `insert` gives `value` if it is `key`, and otherwise what it gave
before. -/
theorem find?_insert (d : Dict α) (key other : String) (value : α) :
    (d.insert key value).find? other = if key = other then some value else d.find? other :=
  find?_insertEntry key other value d.entries

/-- Looking up `other` after `erase` gives nothing if it is `key`, and otherwise what it gave
before. -/
theorem find?_erase (d : Dict α) (key other : String) :
    (d.erase key).find? other = if key = other then none else d.find? other := by
  obtain ⟨entries⟩ := d
  induction entries with
  | nil => simp [erase, find?]
  | cons entry rest ih =>
      obtain ⟨k, v⟩ := entry
      simp only [erase] at ih ⊢
      by_cases h : k = key <;> simp [h, find?_cons] <;> grind

@[simp] theorem find?_map (f : α → β) (d : Dict α) (key : String) :
    (d.map f).find? key = (d.find? key).map f := by
  obtain ⟨entries⟩ := d
  induction entries with
  | nil => rfl
  | cons entry rest ih =>
      obtain ⟨k, v⟩ := entry
      simp only [map, List.map_cons] at ih ⊢
      rw [find?_cons, find?_cons, ih]
      split <;> rfl

/-- The bound keys are those for which `find?` gives something. -/
theorem mem_keys {d : Dict α} {key : String} : key ∈ d.keys ↔ (d.find? key).isSome := by
  simp [keys, find?]

/-! ### The order of the keys -/

theorem mem_insertEntry {key : String} {value : α} {entries : List (String × α)}
    {entry : String × α} (h : entry ∈ insertEntry key value entries) :
    entry = (key, value) ∨ entry ∈ entries := by
  induction entries with
  | nil => simpa [insertEntry] using h
  | cons first rest ih =>
      obtain ⟨k, v⟩ := first
      rw [insertEntry] at h
      split at h
      · simpa using h
      · split at h
        · rcases List.mem_cons.mp h with h | h
          · exact .inl h
          · exact .inr (List.mem_cons_of_mem _ h)
        · rcases List.mem_cons.mp h with h | h
          · exact .inr (by simp [h])
          · exact (ih h).imp_right (List.mem_cons_of_mem _)

/-- Inserting keeps the map `Ordered`. -/
theorem Ordered.insert {d : Dict α} (h : d.Ordered) (key : String) (value : α) :
    (d.insert key value).Ordered := by
  obtain ⟨entries⟩ := d
  simp only [Ordered, Dict.insert] at h ⊢
  induction entries with
  | nil => simp [insertEntry]
  | cons first rest ih =>
      obtain ⟨k, v⟩ := first
      obtain ⟨first_lt, ordered⟩ := List.pairwise_cons.mp h
      rw [insertEntry]
      split
      · rename_i lt
        refine List.pairwise_cons.mpr ⟨fun entry mem => ?_, h⟩
        rcases List.mem_cons.mp mem with rfl | mem
        · exact lt
        · exact String.lt_trans lt (first_lt entry mem)
      · rename_i not_lt
        split
        · rename_i eq
          subst eq
          exact List.pairwise_cons.mpr ⟨first_lt, ordered⟩
        · rename_i ne
          refine List.pairwise_cons.mpr ⟨fun entry mem => ?_, ih ordered⟩
          rcases mem_insertEntry mem with rfl | mem
          · exact Std.lt_of_le_of_ne (Std.not_lt.mp not_lt) (Ne.symm ne)
          · exact first_lt entry mem

/-- Erasing keeps the map `Ordered`. -/
theorem Ordered.erase {d : Dict α} (h : d.Ordered) (key : String) : (d.erase key).Ordered :=
  h.filter _

/-- Every map that `ofList` makes is `Ordered`. -/
theorem ordered_ofList (bindings : List (String × α)) : (ofList bindings).Ordered := by
  suffices ∀ d : Dict α, d.Ordered →
      (bindings.foldl (fun d binding => d.insert binding.1 binding.2) d).Ordered from
    this empty ordered_empty
  induction bindings with
  | nil => exact fun d h => h
  | cons binding rest ih => exact fun d h => ih _ (h.insert _ _)

/-- Mapping the values keeps the map `Ordered`. -/
theorem Ordered.map {d : Dict α} (h : d.Ordered) (f : α → β) : (d.map f).Ordered :=
  List.pairwise_map.mpr h

/-- Mapping the values with `filterMap` keeps the map `Ordered`. -/
theorem Ordered.filterMap {d : Dict α} (h : d.Ordered) (f : α → Option β) :
    (d.filterMap f).Ordered := by
  refine List.Pairwise.filterMap _ (fun a b lt c hc e he => ?_) h
  obtain ⟨v, -, rfl⟩ := Option.map_eq_some_iff.mp hc
  obtain ⟨w, -, rfl⟩ := Option.map_eq_some_iff.mp he
  exact lt

/-! ### Equality -/

/-- In an `Ordered` map, `find?` gives `value` under `key` just if the two are an entry. -/
theorem Ordered.find?_eq_some_iff {d : Dict α} (h : d.Ordered) {key : String} {value : α} :
    d.find? key = some value ↔ (key, value) ∈ d.entries := by
  obtain ⟨entries⟩ := d
  simp only [Ordered] at h
  induction entries with
  | nil => simp [find?]
  | cons first rest ih =>
      obtain ⟨k, v⟩ := first
      obtain ⟨first_lt, ordered⟩ := List.pairwise_cons.mp h
      rw [find?_cons]
      split
      · rename_i eq
        subst eq
        constructor
        · rintro h
          simp_all
        · intro mem
          rcases List.mem_cons.mp mem with h | mem
          · simp_all
          · exact absurd (first_lt _ mem) (String.lt_irrefl _)
      · rename_i ne
        rw [ih ordered, List.mem_cons]
        grind

/-- Two `Ordered` maps are equal if `find?` gives the same under every key. -/
theorem ext_find? {a b : Dict α} (ha : a.Ordered) (hb : b.Ordered)
    (h : ∀ key, a.find? key = b.find? key) : a = b := by
  have mem (entry : String × α) : entry ∈ a.entries ↔ entry ∈ b.entries := by
    rw [← ha.find?_eq_some_iff, ← hb.find?_eq_some_iff, h]
  obtain ⟨as⟩ := a
  obtain ⟨bs⟩ := b
  simp only [Ordered] at ha hb mem
  congr
  clear h
  induction as generalizing bs with
  | nil =>
      cases bs with
      | nil => rfl
      | cons y ys => exact absurd ((mem y).mpr (by simp)) (by simp)
  | cons x xs ih =>
      cases bs with
      | nil => exact absurd ((mem x).mp (by simp)) (by simp)
      | cons y ys =>
          obtain ⟨x_lt, hxs⟩ := List.pairwise_cons.mp ha
          obtain ⟨y_lt, hys⟩ := List.pairwise_cons.mp hb
          have eq : x = y := by
            rcases List.mem_cons.mp ((mem x).mp (by simp)) with h | hx
            · exact h
            · rcases List.mem_cons.mp ((mem y).mpr (by simp)) with h | hy
              · exact h.symm
              · exact absurd (String.lt_trans (y_lt x hx) (x_lt y hy)) (String.lt_irrefl _)
          subst eq
          congr
          refine ih hxs ys hys fun entry => ?_
          have := mem entry
          simp only [List.mem_cons] at this
          constructor
          · intro h
            rcases this.mp (.inr h) with rfl | h'
            · exact absurd (x_lt _ h) (String.lt_irrefl _)
            · exact h'
          · intro h
            rcases this.mpr (.inr h) with rfl | h'
            · exact absurd (y_lt _ h) (String.lt_irrefl _)
            · exact h'

end Dict
end ClusterGraph
