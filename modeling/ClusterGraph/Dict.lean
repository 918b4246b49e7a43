/-!
# ClusterGraph.Dict

**Finite maps from text to values, held as a list of entries in strictly increasing key order.**

Every map that the library prints or stores is one of these: the fields of a JSON
object, the properties of a node, the labels of an object, the counters of a metric.
The order of the entries is the order in which they are written out, so a map has
exactly one text.

Design points:

* text is ordered by code point, which is also the order of its UTF-8 bytes;
* `Dict.insert` keeps the order and replaces an entry of the same key, so a map built
  from `Dict.empty` by insertions is `Dict.Ordered`;
* a look-up is a plain search, and says nothing about the order.
-/

namespace ClusterGraph

/-- A finite map from text to `α`. -/
structure Dict (α : Type) where
  entries : List (String × α)
deriving DecidableEq

namespace Dict

variable {α β : Type}

/-! ### Construction -/

/-- The map that binds no key. -/
def empty : Dict α := ⟨[]⟩

instance : Inhabited (Dict α) := ⟨empty⟩

/-- Put an entry at its place in a list that is ordered by key. An entry of the same `key` is
replaced. -/
def insertEntry (key : String) (value : α) : List (String × α) → List (String × α)
  | [] => [(key, value)]
  | (k, v) :: rest =>
      if key < k then (key, value) :: (k, v) :: rest
      else if key = k then (key, value) :: rest
      else (k, v) :: insertEntry key value rest

/-- The map with `key` bound to `value`. -/
def insert (d : Dict α) (key : String) (value : α) : Dict α :=
  ⟨insertEntry key value d.entries⟩

/-- The map without an entry for `key`. -/
def erase (d : Dict α) (key : String) : Dict α :=
  ⟨d.entries.filter fun entry => entry.1 ≠ key⟩

/-- The map of the `bindings`. Of two bindings of one key the later counts. -/
def ofList (bindings : List (String × α)) : Dict α :=
  bindings.foldl (fun d binding => d.insert binding.1 binding.2) empty

/-! ### Reading -/

/-- The value bound to `key`. -/
def find? (d : Dict α) (key : String) : Option α :=
  (d.entries.find? fun entry => entry.1 = key).map Prod.snd

/-- Whether `key` is bound. -/
def contains (d : Dict α) (key : String) : Bool :=
  (d.find? key).isSome

/-- The bound keys, in the order of `entries`. -/
def keys (d : Dict α) : List String :=
  d.entries.map Prod.fst

/-- The bound values, in the order of `entries`. -/
def values (d : Dict α) : List α :=
  d.entries.map Prod.snd

/-- The number of `entries`. -/
def size (d : Dict α) : Nat :=
  d.entries.length

/-- Whether there are no `entries`. -/
def isEmpty (d : Dict α) : Bool :=
  d.entries.isEmpty

/-- The map with `f` applied to every value. -/
def map (f : α → β) (d : Dict α) : Dict β :=
  ⟨d.entries.map fun entry => (entry.1, f entry.2)⟩

/-- The entries at whose value `f` is defined, with that for a value. -/
def filterMap (f : α → Option β) (d : Dict α) : Dict β :=
  ⟨d.entries.filterMap fun entry => (f entry.2).map fun value => (entry.1, value)⟩

/-! ### The order of the entries -/

/-- The keys of `entries` are strictly increasing. This is the form that `insert` keeps and that the
printer relies on. -/
def Ordered (d : Dict α) : Prop :=
  d.entries.Pairwise fun a b => a.1 < b.1

theorem ordered_empty : (empty : Dict α).Ordered :=
  List.Pairwise.nil

@[simp] theorem find?_empty (key : String) : (empty : Dict α).find? key = none :=
  rfl

@[simp] theorem keys_map (f : α → β) (d : Dict α) : (d.map f).keys = d.keys := by
  simp [keys, map, Function.comp_def]

end Dict

end ClusterGraph
