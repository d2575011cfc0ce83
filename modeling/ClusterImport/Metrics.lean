import ClusterImport.Client
import ClusterImport.Decimal.Shortest
/-!
Metrics of the controller and their exposition as text. Families stand in the order of their names
and series in the order of their label values; a family of labelled series without any is left out.
Counters are words of 64 bits, shown as the nearest floating-point number.
-/
namespace ClusterImport

def durationBounds : List Binary64 :=
  [(1, -2), (5, -2), (1, -1), (25, -2), (5, -1), (1, 0), (25, -1), (5, 0), (1, 1), (3, 1),
    (6, 1)].filterMap fun (digits, exponent) => Binary64.ofDecimal false digits exponent

structure Histogram where
  /-- For each bound how many observations do not exceed it. -/
  cumulative : List UInt64
  sum : Binary64
  count : UInt64
deriving DecidableEq, Repr

namespace Histogram

def empty : Histogram := ⟨durationBounds.map fun _ => 0, Binary64.zero false, 0⟩

def observe (h : Histogram) (seconds : Binary64) : Histogram where
  cumulative := h.cumulative.zipWith (fun n bound => if seconds.le bound then n + 1 else n) durationBounds
  sum := (h.sum.add seconds).getD h.sum
  count := h.count + 1

end Histogram

/-- Milliseconds as seconds: the whole seconds and the fraction are rounded apart, then added. -/
def secondsOfMillis (ms : Nat) : Binary64 :=
  let whole := (Binary64.ofNat? (ms / 1000)).getD default
  let fraction := (Binary64.ofRatio false (ms % 1000 * 1000000) 1000000000).getD default
  (whole.add fraction).getD whole

structure Metrics where
  reconciliations : Dict UInt64
  durations : Histogram
  manifestObjects : Dict UInt64
  rancherClustersCreated : UInt64
deriving DecidableEq, Repr

namespace Metrics

def empty : Metrics := ⟨[], .empty, [], 0⟩

def addTo (series : Dict UInt64) (label : String) (n : UInt64) : Dict UInt64 :=
  Dict.insert label ((Dict.get? label series).getD 0 + n) series

def recordReconcile (m : Metrics) (result : String) (seconds : Binary64) : Metrics :=
  { m with
    reconciliations := addTo m.reconciliations result 1
    durations := m.durations.observe seconds }

/-- Both series come to be, also at zero. -/
def recordManifest (m : Metrics) (outcome : ApplyOutcome) : Metrics :=
  { m with
    manifestObjects := addTo (addTo m.manifestObjects "created" outcome.created.toUInt64)
      "already_exists" outcome.alreadyExisting.toUInt64 }

def recordRancherCluster (m : Metrics) : Metrics :=
  { m with rancherClustersCreated := m.rancherClustersCreated + 1 }

def resultLabel : ReconcileResult → String
  | .success => "success"
  | .error => "error"
  | .skipped => "skipped"

def note (m : Metrics) (seconds : Binary64) : Measurement → Metrics
  | .rancherClusterCreated => m.recordRancherCluster
  | .manifestApplied outcome => m.recordManifest outcome
  | .reconciled result => m.recordReconcile (resultLabel result) seconds

/-! ### Exposition -/

def numberLayout : Decimal.Layout := ⟨fun _ => true, false⟩

def numberText (x : Binary64) : String := String.ofList (numberLayout.text x)

def counterText (n : UInt64) : String := numberText ((Binary64.ofNat? n.toNat).getD default)

def escapeLabel (value : String) : String :=
  String.ofList (value.toList.flatMap fun
    | '\\' => ['\\', '\\']
    | '"' => ['\\', '"']
    | '\n' => ['\\', 'n']
    | c => [c])

def labelled (name label value : String) : String :=
  s!"{name}\x7b{label}=\"{escapeLabel value}\"\x7d"

def header (name help type : String) : List String :=
  [s!"# HELP {name} {help}", s!"# TYPE {name} {type}"]

def seriesLines (name help label : String) (series : Dict UInt64) : List String :=
  if series.isEmpty then []
  else header name help "counter"
    ++ series.map fun (value, n) => labelled name label value ++ " " ++ counterText n

def histogramLines (name help : String) (h : Histogram) : List String :=
  let bucket := name ++ "_bucket"
  header name help "histogram"
    ++ durationBounds.zipWith
      (fun bound n => labelled bucket "le" (numberText bound) ++ " " ++ counterText n) h.cumulative
    ++ [labelled bucket "le" "+Inf" ++ " " ++ counterText h.count,
      s!"{name}_sum {numberText h.sum}", s!"{name}_count {counterText h.count}"]

def lines (m : Metrics) : List String :=
  seriesLines "turtles_manifest_objects_total"
      "Import manifest objects applied to workload clusters" "outcome" m.manifestObjects
    ++ header "turtles_rancher_clusters_created_total" "Rancher clusters created for CAPI clusters"
      "counter"
    ++ [s!"turtles_rancher_clusters_created_total {counterText m.rancherClustersCreated}"]
    ++ histogramLines "turtles_reconcile_duration_seconds"
      "Duration of CAPI cluster reconciliations" m.durations
    ++ seriesLines "turtles_reconciliations_total" "Total CAPI cluster reconciliations" "result"
      m.reconciliations

def render (m : Metrics) : String := String.join (m.lines.map (· ++ "\n"))

end Metrics

end ClusterImport
