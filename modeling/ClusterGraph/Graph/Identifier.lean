import ClusterGraph.Text.Quoted

/-!
# ClusterGraph.Graph.Identifier

**The names that may become part of a statement: labels and property keys.**

A statement is text, and labels and property keys cannot be passed to it as parameters.
Only names of ASCII letters, digits and underscores that start with no digit are put into
one, so that no name can end its place in the statement and start something else.
-/

namespace ClusterGraph

/-- Whether `c` is a letter of ASCII or an underscore. -/
def isIdentifierStart (c : Char) : Bool :=
  c.isAlpha || c = '_'

/-- Whether `c` is a letter or a digit of ASCII, or an underscore. -/
def isIdentifierPart (c : Char) : Bool :=
  c.isAlphanum || c = '_'

/-- Whether a text can be a label or a property key: a character that `isIdentifierStart`, and after
it only ones that are `isIdentifierPart`. -/
def isIdentifier (s : String) : Bool :=
  match s.toList with
  | [] => false
  | c :: rest => isIdentifierStart c && rest.all isIdentifierPart

/-- What a name stands for in a statement, as `NameError` reports it. -/
inductive NameRole where
  | label
  | propertyKey
deriving DecidableEq

namespace NameRole

/-- The role as messages call it. -/
def text : NameRole → String
  | label => "label"
  | propertyKey => "property key"

end NameRole

@[simp] theorem isIdentifier_empty : isIdentifier "" = false :=
  rfl

end ClusterGraph
