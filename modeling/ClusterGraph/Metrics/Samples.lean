/-!
# ClusterGraph.Metrics.Samples

**The samples of one metric: a number for each combination of label values.**

A sample appears when it is first counted or set, and keeps its place from then on; the
order in which samples are shown is decided where they are printed.
-/

namespace ClusterGraph

/-- Integers by the values of labels. -/
structure Samples where
  entries : List (List String × Int)
deriving DecidableEq

namespace Samples

/-- The samples before anything is counted. -/
def empty : Samples :=
  ⟨[]⟩

instance : Inhabited Samples := ⟨empty⟩

/-- The sample under `labels`, if it was ever written. -/
def find? (s : Samples) (labels : List String) : Option Int :=
  (s.entries.find? fun entry => entry.1 = labels).map Prod.snd

/-- Apply `f` to the sample under `labels`. One that is missing is taken for 0 and put at the
end. -/
def updateEntry (labels : List String) (f : Int → Int) :
    List (List String × Int) → List (List String × Int)
  | [] => [(labels, f 0)]
  | (l, n) :: rest =>
      if l = labels then (l, f n) :: rest else (l, n) :: updateEntry labels f rest

/-- Add `n` to the sample under `labels`. -/
def add (s : Samples) (labels : List String) (n : Int) : Samples :=
  ⟨updateEntry labels (· + n) s.entries⟩

/-- Set the sample under `labels` to `n`. -/
def set (s : Samples) (labels : List String) (n : Int) : Samples :=
  ⟨updateEntry labels (fun _ => n) s.entries⟩

/-- Whether no sample was ever written. -/
def isEmpty (s : Samples) : Bool :=
  s.entries.isEmpty

theorem find?_cons (l labels : List String) (n : Int) (rest : List (List String × Int)) :
    find? ⟨(l, n) :: rest⟩ labels = if l = labels then some n else find? ⟨rest⟩ labels := by
  by_cases h : l = labels <;> simp [find?, h]

theorem find?_updateEntry (labels other : List String) (f : Int → Int)
    (entries : List (List String × Int)) :
    find? ⟨updateEntry labels f entries⟩ other
      = if labels = other then some (f ((find? ⟨entries⟩ labels).getD 0))
        else find? ⟨entries⟩ other := by
  induction entries with
  | nil => by_cases h : labels = other <;> simp [updateEntry, find?, h]
  | cons entry rest ih =>
      obtain ⟨l, n⟩ := entry
      rw [find?_cons l labels, find?_cons l other]
      by_cases hl : l = labels
      · subst hl
        rw [updateEntry, if_pos rfl, find?_cons]
        split <;> simp
      · rw [updateEntry, if_neg hl, find?_cons, ih]
        grind

theorem find?_add (s : Samples) (labels other : List String) (n : Int) :
    (s.add labels n).find? other
      = if labels = other then some ((s.find? labels).getD 0 + n) else s.find? other :=
  find?_updateEntry labels other (· + n) s.entries

theorem find?_set (s : Samples) (labels other : List String) (n : Int) :
    (s.set labels n).find? other = if labels = other then some n else s.find? other :=
  find?_updateEntry labels other (fun _ => n) s.entries

end Samples

end ClusterGraph
