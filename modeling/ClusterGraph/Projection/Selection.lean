import ClusterGraph.Graph.Property

/-!
# ClusterGraph.Projection.Selection

**Selectors, the labels they are held against, and the texts in which both are stored.**

A service selects pods by labels. Selectors and labels are stored on nodes as the JSON text
of a map, so either side can be found from the other without its object at hand.
-/

namespace ClusterGraph

/-- A dictionary of texts as it is stored in a property: compact JSON, which `Json.parseTextMap?`
reads back. -/
def storedTextMap (d : Dict String) : String :=
  (Json.textMap d).compact

/-- Whether `selector` selects an object with these `labels`, given in their stored form: each entry
of the selector must be among the labels. An empty selector selects nothing, and an object without
labels is never selected. -/
def selects (selector : Dict String) (labels : Option String) : Bool :=
  !selector.isEmpty &&
    (labels.bind Json.parseTextMap?).any fun found =>
      selector.entries.all fun entry => found.find? entry.1 = some entry.2

/-- The selector that is stored in a property, if it holds one. -/
def storedSelector? (property : Option PropertyValue) : Option (Dict String) :=
  (property.bind PropertyValue.text?).bind Json.parseTextMap?

@[simp] theorem selects_none (selector : Dict String) : selects selector none = false := by
  simp [selects]

end ClusterGraph
