import Registrar.Decimal.Notation
import Registrar.Metrics.Basic
/-!
# The written form of metrics

Each family is written with its description, its type and its samples, and a last line ends the
text. Label values stand as they are. The counts of a histogram add up: a bucket counts everything
up to its bound.
-/

set_option autoImplicit false

namespace Registrar.Metrics

open Decimal (Notation)

/-- Numbers from a millionth up to below a thousand million million millions are written out; an
exponent has no sign if it is positive. -/
def numberNotation : Notation where
  lowestPlain := some (-6)
  highestPlain := some 20
  plus := ""
  positiveInfinity := "inf"
  negativeInfinity := "-inf"
  notANumber := "NaN"

def labelText : List (String × String) → String
  | [] => ""
  | labels =>
      "\x7b" ++ ",".intercalate (labels.map fun (name, value) => name ++ "=\"" ++ value ++ "\"") ++
        "\x7d"

def sample (name : String) (labels : List (String × String)) (value : String) : String :=
  name ++ labelText labels ++ " " ++ value

def heading (name description type : String) : List String :=
  ["# HELP " ++ name ++ " " ++ description ++ ".", "# TYPE " ++ name ++ " " ++ type]

def totals : Nat → List Nat → List Nat
  | _, [] => []
  | sum, count :: counts => (sum + count) :: totals (sum + count) counts

def histogramSamples (name controller : String) (histogram : Histogram) : List String :=
  let labels := [("controller", controller)]
  let bounds := Histogram.bounds.map numberNotation.write ++ ["+Inf"]
  let totals := totals 0 histogram.counts
  [sample (name ++ "_sum") labels (numberNotation.write histogram.sum),
    sample (name ++ "_count") labels (toString (totals.getLastD 0))] ++
  List.zipWith (fun bound total =>
    sample (name ++ "_bucket") (("le", bound) :: labels) (toString total)) bounds totals

def durationSamples (metrics : Metrics) : List String :=
  metrics.durations.flatMap fun (controller, histogram) =>
    histogramSamples "apiservice_sync_duration_seconds" controller histogram

def failureSamples (metrics : Metrics) : List String :=
  metrics.cycleFailures.map fun ((controller, kind), count) =>
    sample "apiservice_sync_errors_total" [("controller", controller), ("kind", kind)]
      (toString count)

def conditionSamples (metrics : Metrics) : List String :=
  metrics.conditions.map fun (type, holds) =>
    sample "apiservice_condition_status" [("condition", type)] (if holds then "1" else "0")

def applySamples (metrics : Metrics) : List String :=
  metrics.applies.map fun (changed, count) =>
    sample "apiservice_apply_total" [("changed", if changed then "true" else "false")]
      (toString count)

def deleteSamples (metrics : Metrics) : List String :=
  [sample "apiservice_delete_total" [] (toString metrics.deletes)]

def families (metrics : Metrics) : List (List String × List String) :=
  [(heading "apiservice_sync_duration_seconds" "Duration of APIService sync cycles in seconds"
      "histogram", durationSamples metrics),
    (heading "apiservice_sync_errors" "Total number of failed APIService sync cycles" "counter",
      failureSamples metrics),
    (heading "apiservice_condition_status"
      "Operator condition status (1 = True, 0 = False or Unknown)" "gauge",
      conditionSamples metrics),
    (heading "apiservice_apply"
      "APIService applies, labeled by whether the stored object changed" "counter",
      applySamples metrics),
    (heading "apiservice_delete" "Delete calls issued for disabled APIServices" "counter",
      deleteSamples metrics)]

def exposition (metrics : Metrics) : String :=
  let lines := (families metrics).flatMap (fun (heading, samples) => heading ++ samples) ++ ["# EOF"]
  String.join (lines.map (· ++ "\n"))

end Registrar.Metrics
