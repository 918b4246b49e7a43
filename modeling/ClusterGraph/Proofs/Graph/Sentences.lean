import ClusterGraph.Graph.Statement
import ClusterGraph.Proofs.Projection.Registering
import Mathlib.Data.List.Basic

/-!
# ClusterGraph.Proofs.Graph.Sentences

**Statements taken apart: the patterns, names and parameters that are read off a text.**

A statement is put together from texts, and a database takes it apart again. It finds the parts
that were put in (`Sentence.read?_text`), because none of them runs into what stands around it: a
name has no character but those of names (`IsWord`), and what follows a name is always another
character (`Breaks`). So a text is that of one sentence at most, however many labels there are
(`Sentence.text_inj`), and all parameters in it are those of the sentence
(`Sentence.parametersIn_text`).
-/

namespace ClusterGraph

/-! ## Words -/

/-- Every character of `s` is one of an identifier (`isIdentifierPart`). Unlike an identifier, a
word can be empty or begin with a digit. -/
def IsWord (s : String) : Prop :=
  ∀ c ∈ s.toList, isIdentifierPart c = true

instance (s : String) : Decidable (IsWord s) :=
  decidable_of_iff (s.toList.all isIdentifierPart = true) List.all_eq_true

/-- The characters `cs` do not begin with one of an identifier, so a word in front of them ends
there. -/
def Breaks (cs : List Char) : Prop :=
  ∀ c ∈ cs.head?, isIdentifierPart c = false

/-- The longest word at the beginning of `cs`. -/
def wordAt (cs : List Char) : String :=
  String.ofList (cs.takeWhile isIdentifierPart)

/-- The rest of `cs` after `wordAt`. -/
def afterWord (cs : List Char) : List Char :=
  cs.dropWhile isIdentifierPart

theorem IsName.isWord {s : String} (h : IsName s) : IsWord s := by
  obtain ⟨first, rest, hs, hfirst, hrest⟩ := h
  intro c hc
  rw [hs] at hc
  rw [isIdentifierPart_iff]
  cases hc with
  | head => exact .inl hfirst
  | tail _ hc => exact hrest c hc

@[simp] theorem breaks_nil : Breaks [] :=
  nofun

@[simp] theorem breaks_cons {c : Char} {cs : List Char} :
    Breaks (c :: cs) ↔ isIdentifierPart c = false := by
  simp [Breaks]

@[simp] theorem wordAt_of_breaks {cs : List Char} (h : Breaks cs) : wordAt cs = "" := by
  cases cs with
  | nil => rfl
  | cons c rest => simp [wordAt, breaks_cons.mp h]

@[simp] theorem afterWord_of_breaks {cs : List Char} (h : Breaks cs) : afterWord cs = cs := by
  cases cs with
  | nil => rfl
  | cons c rest => simp [afterWord, breaks_cons.mp h]

namespace IsWord

variable {s t : String} {x : List Char}

theorem append (hs : IsWord s) (ht : IsWord t) : IsWord (s ++ t) := by
  intro c hc
  rw [String.toList_append, List.mem_append] at hc
  exact hc.elim (hs c) (ht c)

/-- A word in front of characters that `Breaks` is read back by `wordAt`. -/
theorem wordAt_append (hs : IsWord s) (hx : Breaks x) : wordAt (s.toList ++ x) = s := by
  have hrest : x.takeWhile isIdentifierPart = [] := by
    have := congrArg String.toList (wordAt_of_breaks hx)
    simpa [wordAt] using this
  rw [wordAt, List.takeWhile_append_of_pos hs, hrest, List.append_nil, String.ofList_toList]

theorem afterWord_append (hs : IsWord s) (hx : Breaks x) : afterWord (s.toList ++ x) = x := by
  rw [afterWord, List.dropWhile_append_of_pos hs]
  exact afterWord_of_breaks hx

theorem not_mem {c : Char} (hs : IsWord s) (hc : isIdentifierPart c = false) : c ∉ s.toList := by
  intro hmem
  rw [hs c hmem] at hc
  cases hc

end IsWord

theorem Relationship.isWord_text (rel : Relationship) : IsWord rel.text := by
  cases rel <;> decide

theorem Relationship.ofText?_text (rel : Relationship) : ofText? rel.text = some rel := by
  cases rel <;> decide

/-! ## Parameters in a text -/

/-- The names of the parameters in a text: every word that follows a dollar. -/
def parametersIn : List Char → List String
  | [] => []
  | c :: rest => if c = '$' then wordAt rest :: parametersIn rest else parametersIn rest

@[simp] theorem parametersIn_nil : parametersIn [] = [] :=
  rfl

@[simp] theorem parametersIn_cons_of_ne {c : Char} (h : c ≠ '$') (x : List Char) :
    parametersIn (c :: x) = parametersIn x := by
  simp [parametersIn, h]

theorem parametersIn_append_of_not_mem {cs : List Char} (h : '$' ∉ cs) (x : List Char) :
    parametersIn (cs ++ x) = parametersIn x := by
  induction cs with
  | nil => rfl
  | cons c rest ih =>
      rw [List.mem_cons, not_or] at h
      rw [List.cons_append, parametersIn_cons_of_ne (Ne.symm h.1), ih h.2]

/-- A word contains no dollar, so it has no parameters. -/
theorem IsWord.parametersIn_append {s : String} (hs : IsWord s) (x : List Char) :
    parametersIn (s.toList ++ x) = parametersIn x :=
  parametersIn_append_of_not_mem (hs.not_mem (by decide)) x

theorem IsWord.parametersIn_dollar {s : String} (hs : IsWord s) {x : List Char} (hx : Breaks x) :
    parametersIn ('$' :: (s.toList ++ x)) = s :: parametersIn x := by
  rw [parametersIn, if_pos rfl, hs.wordAt_append hx, hs.parametersIn_append]

/-! ## Patterns -/

@[simp] theorem Statement.toList_labelText_nil : (labelText []).toList = [] :=
  rfl

@[simp] theorem Statement.toList_labelText_cons (label : String) (rest : List String) :
    (labelText (label :: rest)).toList = ':' :: (label.toList ++ (labelText rest).toList) := by
  simp [labelText]

/-- Node as a statement describes it: its variable, its labels, the `key` with the `parameter` that
its property is compared with, and a parameter for its cluster if that is compared too. -/
structure NodePattern where
  variable_ : String
  labels : List String
  key : String
  parameter : String
  cluster : Option String
deriving DecidableEq

namespace NodePattern

/-- Text in front of the parameter for the cluster. -/
def narrowing : String :=
  ", " ++ Key.clusterName ++ ": $"

/-- The comparison of the cluster, if there is one. -/
def narrowingText (p : NodePattern) : String :=
  match p.cluster with
  | some parameter => narrowing ++ parameter
  | none => ""

/-- The text of the pattern. -/
def text (p : NodePattern) : String :=
  "(" ++ p.variable_ ++ Statement.labelText p.labels ++ " \x7b" ++ p.key ++ ": $" ++ p.parameter
    ++ p.narrowingText ++ "\x7d)"

/-- Read the comparison of a cluster, if `cs` begins with one. -/
def readNarrowing (cs : List Char) : Option String × List Char :=
  match narrowing.toList.isPrefixOf? cs with
  | some cs => (some (wordAt cs), afterWord cs)
  | none => (none, cs)

/-- The names at the beginning of `cs`, which are separated by colons and end at a space. -/
def namesAt (cs : List Char) : List String :=
  ((cs.takeWhile (· ≠ ' ')).splitOn ':').map String.ofList

/-- The rest of `cs` after `namesAt`. -/
def afterNames (cs : List Char) : List Char :=
  cs.dropWhile (· ≠ ' ')

/-- Read a pattern at the beginning of `cs`: the inverse of `text` (`read?_text_append`). -/
def read? (cs : List Char) : Option (NodePattern × List Char) := do
  let names ← "(".toList.isPrefixOf? cs
  let variable_ ← (namesAt names).head?
  let key ← " \x7b".toList.isPrefixOf? (afterNames names)
  let parameter ← ": $".toList.isPrefixOf? (afterWord key)
  let (cluster, rest) := readNarrowing (afterWord parameter)
  let rest ← "\x7d)".toList.isPrefixOf? rest
  return (⟨variable_, (namesAt names).tail, wordAt key, wordAt parameter, cluster⟩, rest)

/-- The parameters of the pattern. -/
def parameters (p : NodePattern) : List String :=
  p.parameter :: p.cluster.toList

/-- All names of the pattern satisfy `IsWord`. -/
structure Worded (p : NodePattern) : Prop where
  variable_ : IsWord p.variable_
  labels : ∀ label ∈ p.labels, IsWord label
  key : IsWord p.key
  parameter : IsWord p.parameter
  cluster : ∀ parameter ∈ p.cluster, IsWord parameter

theorem toList_text_append (p : NodePattern) (x : List Char) :
    p.text.toList ++ x = '(' :: (p.variable_.toList ++ ((Statement.labelText p.labels).toList
      ++ ' ' :: '{' :: (p.key.toList ++ ':' :: ' ' :: '$' :: (p.parameter.toList
        ++ (p.narrowingText.toList ++ '}' :: ')' :: x))))) := by
  simp [text]

theorem breaks_narrowingText (p : NodePattern) (x : List Char) :
    Breaks (p.narrowingText.toList ++ '}' :: x) := by
  have hcomma : isIdentifierPart ',' = false := by decide
  have hbrace : isIdentifierPart '}' = false := by decide
  unfold narrowingText
  cases p.cluster with
  | none => simp [hbrace]
  | some parameter => simp [narrowing, hcomma]

/-- Variable and labels are words separated by colons. -/
theorem toList_names (v : String) (labels : List String) :
    v.toList ++ (Statement.labelText labels).toList
      = [':'].intercalate ((v :: labels).map String.toList) := by
  induction labels generalizing v with
  | nil => simp
  | cons label rest ih =>
      rw [Statement.toList_labelText_cons, ih]
      simp [List.intercalate]

/-- No character other than those of words and colons occurs in variable and labels. -/
theorem not_mem_names {c : Char} (hpart : isIdentifierPart c = false) (hcolon : c ≠ ':')
    {v : String} (hv : IsWord v) {labels : List String} (hlabels : ∀ label ∈ labels, IsWord label) :
    c ∉ v.toList ++ (Statement.labelText labels).toList := by
  induction labels generalizing v with
  | nil => simp [hv.not_mem hpart]
  | cons label rest ih =>
      rw [List.forall_mem_cons] at hlabels
      have hrest := ih hlabels.1 hlabels.2
      rw [List.mem_append, not_or] at hrest
      simp [hv.not_mem hpart, hcolon, hrest]

namespace Worded

variable {p : NodePattern}

/-- In particular no space does, so `namesAt` ends after the labels. -/
theorem ne_space (hp : p.Worded) :
    ∀ c ∈ p.variable_.toList ++ (Statement.labelText p.labels).toList, decide (c ≠ ' ') = true := by
  intro c hc
  rw [decide_eq_true_eq]
  intro heq
  exact not_mem_names (by decide) (by decide) hp.variable_ hp.labels (heq ▸ hc)

theorem namesAt_append (hp : p.Worded) (x : List Char) :
    namesAt (p.variable_.toList ++ ((Statement.labelText p.labels).toList ++ ' ' :: x))
      = p.variable_ :: p.labels := by
  have hcolon : ∀ name ∈ (p.variable_ :: p.labels).map String.toList, ':' ∉ name := by
    intro name hname
    obtain ⟨word, hword, rfl⟩ := List.mem_map.mp hname
    exact (List.forall_mem_cons.mpr ⟨hp.variable_, hp.labels⟩ word hword).not_mem (by decide)
  rw [namesAt, ← List.append_assoc, List.takeWhile_append_of_pos hp.ne_space,
    List.takeWhile_cons_of_neg (by simp), List.append_nil, toList_names,
    List.splitOn_intercalate ':' hcolon (by simp)]
  simp

theorem afterNames_append (hp : p.Worded) (x : List Char) :
    afterNames (p.variable_.toList ++ ((Statement.labelText p.labels).toList ++ ' ' :: x))
      = ' ' :: x := by
  rw [afterNames, ← List.append_assoc, List.dropWhile_append_of_pos hp.ne_space]
  simp

theorem readNarrowing_append (hp : p.Worded) (x : List Char) :
    readNarrowing (p.narrowingText.toList ++ '}' :: x) = (p.cluster, '}' :: x) := by
  have hbreaks : Breaks ('}' :: x) := breaks_cons.mpr (by decide)
  unfold readNarrowing narrowingText
  cases hcluster : p.cluster with
  | none => simp [narrowing, List.isPrefixOf?]
  | some parameter =>
      have hword := hp.cluster parameter hcluster
      simp [narrowing, Key.clusterName, List.isPrefixOf?, hword.wordAt_append hbreaks,
        hword.afterWord_append hbreaks]

/-- A worded pattern is read back, whatever characters follow it. -/
theorem read?_text_append (hp : p.Worded) (x : List Char) :
    read? (p.text.toList ++ x) = some (p, x) := by
  have hcolon : ∀ x, Breaks (':' :: x) := fun _ => breaks_cons.mpr (by decide)
  have hnarrowing := p.breaks_narrowingText (')' :: x)
  rw [toList_text_append]
  simp [read?, List.isPrefixOf?, hp.namesAt_append, hp.afterNames_append,
    hp.key.wordAt_append (hcolon _), hp.key.afterWord_append (hcolon _),
    hp.parameter.wordAt_append hnarrowing, hp.parameter.afterWord_append hnarrowing,
    hp.readNarrowing_append]

theorem parametersIn_narrowingText (hp : p.Worded) (x : List Char) :
    parametersIn (p.narrowingText.toList ++ '}' :: x) = p.cluster.toList ++ parametersIn x := by
  have hbreaks : Breaks ('}' :: x) := breaks_cons.mpr (by decide)
  unfold narrowingText
  cases hcluster : p.cluster with
  | none => simp
  | some parameter =>
      simp [narrowing, Key.clusterName,
        (hp.cluster parameter hcluster).parametersIn_dollar hbreaks]

theorem parametersIn_text_append (hp : p.Worded) (x : List Char) :
    parametersIn (p.text.toList ++ x) = p.parameters ++ parametersIn x := by
  have hnames : '$' ∉ p.variable_.toList ++ (Statement.labelText p.labels).toList :=
    not_mem_names (by decide) (by decide) hp.variable_ hp.labels
  rw [toList_text_append, ← List.append_assoc, parametersIn_cons_of_ne (by decide),
    parametersIn_append_of_not_mem hnames]
  simp [hp.key.parametersIn_append, hp.parameter.parametersIn_dollar (p.breaks_narrowingText _),
    hp.parametersIn_narrowingText, parameters]

end Worded
end NodePattern

/-! ## Sentences -/

/-- Statement as a tree, of which `text` is the form that is sent. -/
inductive Sentence where
  /-- Finds or makes the `node`, and sets its properties to those of the parameter `record`. -/
  | merge (node : NodePattern) (record : String)
  /-- Deletes the nodes of the pattern. -/
  | delete (node : NodePattern)
  /-- Links the nodes of `source` to those of `target`. -/
  | link (source : NodePattern) (rel : Relationship) (target : NodePattern)
deriving DecidableEq

namespace Sentence

/-- Text between the pattern of `merge` and its record. -/
def setting (node : NodePattern) : String :=
  " SET " ++ node.variable_ ++ " = $"

/-- Text after the pattern of `delete`. -/
def deletion (node : NodePattern) : String :=
  " DETACH DELETE " ++ node.variable_

/-- Text between the patterns of `link` and its relationship. -/
def linkFrom (source : NodePattern) : String :=
  " MERGE (" ++ source.variable_ ++ ")-[:"

/-- Text after the relationship of `link`. -/
def linkTo (target : NodePattern) : String :=
  "]->(" ++ target.variable_ ++ ")"

/-- The text of the statement. -/
def text : Sentence → String
  | merge node record => "MERGE " ++ node.text ++ setting node ++ record
  | delete node => "MATCH " ++ node.text ++ deletion node
  | link source rel target =>
      "MATCH " ++ source.text ++ ", " ++ target.text ++ linkFrom source ++ rel.text ++ linkTo target

/-- Read the text of a `merge`. -/
def readMerge? (cs : List Char) : Option Sentence := do
  let cs ← "MERGE ".toList.isPrefixOf? cs
  let (node, cs) ← NodePattern.read? cs
  let cs ← (setting node).toList.isPrefixOf? cs
  if afterWord cs = [] then some (merge node (wordAt cs)) else none

/-- Read the text of a `delete`. -/
def readDelete? (cs : List Char) : Option Sentence := do
  let cs ← "MATCH ".toList.isPrefixOf? cs
  let (node, cs) ← NodePattern.read? cs
  if cs = (deletion node).toList then some (delete node) else none

/-- Read the text of a `link`. -/
def readLink? (cs : List Char) : Option Sentence := do
  let cs ← "MATCH ".toList.isPrefixOf? cs
  let (source, cs) ← NodePattern.read? cs
  let cs ← ", ".toList.isPrefixOf? cs
  let (target, cs) ← NodePattern.read? cs
  let cs ← (linkFrom source).toList.isPrefixOf? cs
  let rel ← Relationship.ofText? (wordAt cs)
  if afterWord cs = (linkTo target).toList then some (link source rel target) else none

/-- Read the text of a statement: the inverse of `text` (`read?_text`). -/
def read? (text : String) : Option Sentence :=
  readMerge? text.toList <|> readDelete? text.toList <|> readLink? text.toList

/-- The parameters of the statement, in the order in which they occur. -/
def parameters : Sentence → List String
  | merge node record => node.parameters ++ [record]
  | delete node => node.parameters
  | link source _ target => source.parameters ++ target.parameters

/-- All names of the statement satisfy `IsWord`. -/
def Worded : Sentence → Prop
  | merge node record => node.Worded ∧ IsWord record
  | delete node => node.Worded
  | link source _ target => source.Worded ∧ target.Worded

variable {s t : Sentence} {node source target : NodePattern} {record : String} {rel : Relationship}

theorem isPrefixOf?_append (cs x : List Char) : cs.isPrefixOf? (cs ++ x) = some x :=
  List.isPrefixOf?_eq_some_iff_append_eq.mpr rfl

theorem readMerge?_text (hnode : node.Worded) (hrecord : IsWord record) :
    readMerge? (merge node record).text.toList = some (merge node record) := by
  have hword := hrecord.wordAt_append breaks_nil
  have hrest := hrecord.afterWord_append breaks_nil
  rw [List.append_nil] at hword hrest
  simp [readMerge?, text, List.isPrefixOf?, hnode.read?_text_append, isPrefixOf?_append, hword,
    hrest]

theorem readDelete?_text (hnode : node.Worded) :
    readDelete? (delete node).text.toList = some (delete node) := by
  have hread := hnode.read?_text_append (deletion node).toList
  simp [readDelete?, text, List.isPrefixOf?, hread]

theorem readLink?_text (hsource : source.Worded) (htarget : target.Worded) :
    readLink? (link source rel target).text.toList = some (link source rel target) := by
  have hrel := rel.isWord_text
  have hbreaks : Breaks (linkTo target).toList := by
    simp [linkTo, show isIdentifierPart ']' = false by decide]
  simp [readLink?, text, List.isPrefixOf?, hsource.read?_text_append, htarget.read?_text_append,
    isPrefixOf?_append, hrel.wordAt_append hbreaks, hrel.afterWord_append hbreaks,
    rel.ofText?_text]

/-- A worded statement is read back from its text. -/
theorem read?_text (hs : s.Worded) : read? s.text = some s := by
  cases s with
  | merge node record => simp [read?, readMerge?_text hs.1 hs.2]
  | delete node =>
      have hmerge : readMerge? (delete node).text.toList = none := by
        simp [readMerge?, text, List.isPrefixOf?]
      simp [read?, hmerge, readDelete?_text hs]
  | link source rel target =>
      have hmerge : readMerge? (link source rel target).text.toList = none := by
        simp [readMerge?, text, List.isPrefixOf?]
      have hdelete : readDelete? (link source rel target).text.toList = none := by
        simp [readDelete?, text, deletion, List.isPrefixOf?, hs.1.read?_text_append]
      simp [read?, hmerge, hdelete, readLink?_text hs.1 hs.2]

/-- Worded statements with the same text are the same. -/
theorem text_inj (hs : s.Worded) (ht : t.Worded) (h : s.text = t.text) : s = t := by
  have hread := read?_text hs
  rw [h, read?_text ht] at hread
  exact (Option.some.inj hread).symm

/-- The parameters that occur in the text are those of the statement. -/
theorem parametersIn_text (hs : s.Worded) : parametersIn s.text.toList = s.parameters := by
  cases s with
  | merge node record =>
      obtain ⟨hnode, hrecord⟩ := hs
      have hlast := hrecord.parametersIn_dollar breaks_nil
      rw [List.append_nil] at hlast
      simp [text, setting, hnode.parametersIn_text_append, hnode.variable_.parametersIn_append,
        hlast, parameters]
  | delete node =>
      have hnode : node.Worded := hs
      have hlast := hnode.variable_.parametersIn_append []
      rw [List.append_nil] at hlast
      simp [text, deletion, hnode.parametersIn_text_append, hlast, parameters]
  | link source rel target =>
      obtain ⟨hsource, htarget⟩ := hs
      simp [text, linkFrom, linkTo, hsource.parametersIn_text_append,
        hsource.variable_.parametersIn_append, htarget.parametersIn_text_append,
        htarget.variable_.parametersIn_append, rel.isWord_text.parametersIn_append, parameters]

end Sentence
end ClusterGraph
