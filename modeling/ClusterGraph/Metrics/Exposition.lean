import ClusterGraph.Metrics.Basic

/-!
# ClusterGraph.Metrics.Exposition

**The text in which metrics are shown: a family of samples after the other, by name.**

A family has a line of help and a line with its type, then a line for each sample, ordered
by label values. A family without samples does not appear. Of timed operations only the
number is shown here; how long they took is not part of this library.
-/

namespace ClusterGraph

/-- The type of a metric. Of a `histogram` only the number of observations is shown. -/
inductive MetricType where
  | counter
  | gauge
  | histogram
deriving DecidableEq

/-- The type as the line `# TYPE` says it. -/
def MetricType.text : MetricType → String
  | counter => "counter"
  | gauge => "gauge"
  | histogram => "histogram"

/-- A metric with its samples, as it is shown. -/
structure MetricFamily where
  name : String
  help : String
  type : MetricType
  labels : List String
  samples : Samples

namespace MetricFamily

/-- The value of a label in double quotes, with `\`, `"` and line ends escaped. -/
def quotedValue (s : String) : String :=
  let escape (c : Char) : String :=
    if c = '\\' then "\\\\" else if c = '\n' then "\\n" else if c = '"' then "\\\"" else c.toString
  "\"" ++ String.join (s.toList.map escape) ++ "\""

/-- The labels of a sample in braces, `name="value"`, or nothing if there are none. -/
def labelText (names values : List String) : String :=
  match names.zip values with
  | [] => ""
  | pairs =>
      "\x7b" ++ ",".intercalate (pairs.map fun p => p.1 ++ "=" ++ quotedValue p.2) ++ "\x7d"

/-- Whether the values of labels come no later than others, in lexicographic order. -/
def labelsLe : List String → List String → Bool
  | [], _ => true
  | _, [] => false
  | a :: as, b :: bs => if a = b then labelsLe as bs else a < b

/-- The name in the lines of samples: that of the family, with `_count` for a `histogram`. -/
def sampleName (f : MetricFamily) : String :=
  if f.type = .histogram then f.name ++ "_count" else f.name

/-- The lines of a family: `# HELP`, `# TYPE` and one for each sample. Without samples there are
none. -/
def lines (f : MetricFamily) : List String :=
  if f.samples.isEmpty then []
  else
    ["# HELP " ++ f.name ++ " " ++ f.help, "# TYPE " ++ f.name ++ " " ++ f.type.text]
      ++ (f.samples.entries.mergeSort fun a b => labelsLe a.1 b.1).map fun entry =>
        f.sampleName ++ labelText f.labels entry.1 ++ " " ++ toString entry.2

end MetricFamily

namespace Metrics

/-- The metrics as families, in the order of their names. -/
def families (m : Metrics) : List MetricFamily :=
  [ ⟨"kubegraph_nodes_swept_total", "Nodes deleted by retention sweeps", .counter,
      ["sweep"], m.swept⟩,
    ⟨"kubegraph_pipeline_events_total", "Watch notifications handled", .counter,
      ["event", "kind", "outcome"], m.notifications⟩,
    ⟨"kubegraph_store_active_sessions", "Graph store sessions currently in flight", .gauge,
      [], ⟨[([], m.activeSessions)]⟩⟩,
    ⟨"kubegraph_store_operation_duration_seconds", "Graph store operation time in seconds",
      .histogram, ["operation"], m.timed⟩,
    ⟨"kubegraph_store_operations_total", "Graph store operations", .counter,
      ["operation", "outcome"], m.operations⟩,
    ⟨"kubegraph_subscription_state", "Per-kind subscription state", .gauge,
      ["kind", "state"], m.states⟩ ]

/-- The lines in which the metrics are shown, family by family. -/
def lines (m : Metrics) : List String :=
  m.families.flatMap MetricFamily.lines

end Metrics

end ClusterGraph
