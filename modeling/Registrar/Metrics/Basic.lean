import Registrar.Decimal.Binary64
/-!
# Metrics

What the operator counts while it works: durations and failures of cycles, the status of its
conditions, applies and deletes. Each observation changes one series and leaves all others alone.
A series appears with its first observation; only the count of deletes is there from the start.

Counters only ever grow. They are taken as numbers without a largest one, also where the registry
that exposes them keeps 64 bits of each.
-/

set_option autoImplicit false

namespace Registrar

open Decimal (Binary64)

inductive Observation where
  | cycleDuration (controller : String) (seconds : Binary64)
  | cycleFailure (controller kind : String)
  | conditionStatus (type : String) (holds : Bool)
  | apply (changed : Bool)
  | delete
deriving DecidableEq, Repr

/-- A distribution of durations: how many fell into each bucket, with one more for those beyond
the last bound, and their sum. -/
structure Histogram where
  counts : List Nat
  sum : Binary64
deriving DecidableEq, Repr

namespace Histogram

/-- The upper bounds of the buckets: sixteen of them, each twice the one before, from one
millisecond on. -/
def bounds : List Binary64 :=
  (List.range 16).map fun power => Binary64.ofRatio false ⟨Decimal.twoTo power, 1000⟩

def empty : Histogram where
  counts := List.replicate 17 0
  sum := Binary64.zero

def countIn (seconds : Binary64) : List Binary64 → List Nat → List Nat
  | bound :: bounds, count :: counts =>
      if seconds.le bound then (count + 1) :: counts
      else count :: countIn seconds bounds counts
  | [], count :: counts => (count + 1) :: counts
  | _, [] => []

def add (histogram : Histogram) (seconds : Binary64) : Histogram where
  counts := countIn seconds bounds histogram.counts
  sum := histogram.sum.add seconds

end Histogram

/-- A family of series, each under its labels, in the order of their first observation. -/
abbrev Family (κ α : Type) :=
  List (κ × α)

namespace Family

variable {κ α : Type} [DecidableEq κ]

def alter (labels : κ) (blank : α) (change : α → α) : Family κ α → Family κ α
  | [] => [(labels, change blank)]
  | (other, value) :: rest =>
      if other = labels then (other, change value) :: rest
      else (other, value) :: alter labels blank change rest

def get? (family : Family κ α) (labels : κ) : Option α :=
  family.lookup labels

/-- A change acts on the series with the given labels and on no other. -/
theorem get?_alter (family : Family κ α) (labels other : κ) (blank : α) (change : α → α) :
    (family.alter labels blank change).get? other =
      if other = labels then some (change ((family.get? labels).getD blank))
      else family.get? other := by
  fun_induction Family.alter labels blank change family <;> grind [get?]

end Family

structure Metrics where
  durations : Family String Histogram := []
  cycleFailures : Family (String × String) Nat := []
  conditions : Family String Bool := []
  applies : Family Bool Nat := []
  deletes : Nat := 0
deriving DecidableEq, Repr

namespace Metrics

def observe (metrics : Metrics) : Observation → Metrics
  | .cycleDuration controller seconds =>
      { metrics with
        durations := metrics.durations.alter controller Histogram.empty (·.add seconds) }
  | .cycleFailure controller kind =>
      { metrics with
        cycleFailures := metrics.cycleFailures.alter (controller, kind) 0 (· + 1) }
  | .conditionStatus type holds =>
      { metrics with conditions := metrics.conditions.alter type holds fun _ => holds }
  | .apply changed => { metrics with applies := metrics.applies.alter changed 0 (· + 1) }
  | .delete => { metrics with deletes := metrics.deletes + 1 }

def observeAll (metrics : Metrics) (observations : List Observation) : Metrics :=
  observations.foldl observe metrics

end Metrics

end Registrar
