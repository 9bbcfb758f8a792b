import MeshControl.Decimal.Grisu

/-!
The engine's metrics and their text exposition. Four families are kept: reconcile durations
(a histogram with exponential buckets), reconcile errors and object operations (counters),
and whether each component is installed (a gauge). The text lists each family's help and
type, then its samples in byte order, and ends with `# EOF`.
-/

namespace MeshControl

/-- Counters and gauges the engine keeps, each series under its label values in the order
first seen. -/
structure Metrics where
  /-- Observed reconcile durations in seconds, per controller. -/
  durations : List (String × List Float) := []
  /-- Reconcile errors per controller and error kind. -/
  errors : List ((String × String) × Nat) := []
  /-- Objects created, patched or deleted, per kind and verb. -/
  operations : List ((String × String) × Nat) := []
  /-- Whether a component is installed, per namespace, control plane name and component. -/
  installed : List ((String × String × String) × Int) := []
  deriving Inhabited

/-- Adds one to the counter of a series, creating it at zero first. -/
def bumpSeries [BEq κ] : List (κ × Nat) → κ → List (κ × Nat)
  | [], k => [(k, 1)]
  | (k', n) :: rest, k => if k' == k then (k', n + 1) :: rest else (k', n) :: bumpSeries rest k

/-- Sets the value of a series, creating it when new. -/
def setSeries [BEq κ] : List (κ × α) → κ → α → List (κ × α)
  | [], k, v => [(k, v)]
  | (k', v') :: rest, k, v => if k' == k then (k', v) :: rest else (k', v') :: setSeries rest k v

namespace Metrics

/-- Counts an object operation of a kind: `create`, `patch` or `delete`. -/
def countOperation (m : Metrics) (kind verb : String) : Metrics :=
  { m with operations := bumpSeries m.operations (kind, verb) }

/-- Counts a reconcile error of a controller. -/
def countError (m : Metrics) (controller kind : String) : Metrics :=
  { m with errors := bumpSeries m.errors (controller, kind) }

/-- Records whether a component of a control plane is installed. -/
def setInstalled (m : Metrics) (ns name component : String) (installed : Bool) : Metrics :=
  { m with installed := setSeries m.installed (ns, name, component) (if installed then 1 else 0) }

/-- Records the duration of one reconcile of a controller. -/
def observe (m : Metrics) (controller : String) (seconds : Float) : Metrics :=
  let old := ((m.durations.find? (·.1 == controller)).map (·.2)).getD []
  { m with durations := setSeries m.durations controller (old ++ [seconds]) }

end Metrics

/-- Upper bounds of the duration buckets: 1 ms doubling sixteen times. -/
def durationBuckets : List Float := (List.range 16).map fun i => 0.001 * (2 : Float) ^ i.toFloat

/-- The text of a float sample value or bucket bound: Grisu2 digits, and `inf`, `-inf` or
`NaN` for the values that are not finite. -/
def sampleValue (f : Float) : String := Decimal.quickText f

/-- A label list as written in a sample. -/
def labelText (labels : List (String × String)) : String :=
  "\x7b" ++ ",".intercalate (labels.map fun (k, v) => k ++ "=\"" ++ v ++ "\"") ++ "\x7d"

/-- The sample lines of a histogram series: sum, count, and cumulative buckets. -/
def histogramLines (name : String) (labels : List (String × String)) (values : List Float) : List String :=
  let sum := values.foldl (· + ·) 0
  let counts := durationBuckets.map fun b => (values.filter (· ≤ b)).length
  let buckets := (durationBuckets.zip counts).map fun (b, n) =>
    name ++ "_bucket" ++ labelText (("le", sampleValue b) :: labels) ++ " " ++ toString n
  [name ++ "_sum" ++ labelText labels ++ " " ++ sampleValue sum,
   name ++ "_count" ++ labelText labels ++ " " ++ toString values.length] ++ buckets ++
  [name ++ "_bucket" ++ labelText (("le", "+Inf") :: labels) ++ " " ++ toString values.length]

/-- A family: its help and type lines, then its sample lines in byte order. -/
def familyText (name help kind : String) (samples : List String) : String :=
  "# HELP " ++ name ++ " " ++ help ++ ".\n# TYPE " ++ name ++ " " ++ kind ++ "\n" ++
    String.join ((samples.mergeSort fun a b => decide (a ≤ b)).map (· ++ "\n"))

/-- The text exposition of the metrics. -/
def Metrics.render (m : Metrics) : String :=
  let durations := m.durations.flatMap fun (c, vs) =>
    histogramLines "mesh_reconcile_duration_seconds" [("controller", c)] vs
  let errors := m.errors.map fun ((c, k), n) =>
    "mesh_reconcile_errors_total_total" ++ labelText [("controller", c), ("kind", k)] ++ " " ++ toString n
  let operations := m.operations.map fun ((k, v), n) =>
    "mesh_object_operations_total_total" ++ labelText [("kind", k), ("verb", v)] ++ " " ++ toString n
  let installed := m.installed.map fun ((ns, name, c), v) =>
    "mesh_component_installed" ++ labelText [("namespace", ns), ("name", name), ("component", c)] ++
      " " ++ toString v
  familyText "mesh_reconcile_duration_seconds" "Duration of reconcile loops in seconds" "histogram" durations ++
  familyText "mesh_reconcile_errors_total" "Total number of reconcile errors" "counter" errors ++
  familyText "mesh_object_operations_total" "Objects created, patched or deleted by the engine" "counter" operations ++
  familyText "mesh_component_installed"
    "Whether a control plane component is installed (1) or not (0)" "gauge" installed ++
  "# EOF\n"

end MeshControl
