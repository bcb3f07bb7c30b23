import Registrar.Failure.Basic
import Registrar.Resource.Condition
/-!
# The report of a cycle

A cycle has three phases: deletions, the check before applying, and applies. Each can fail on its
own. The report folds their outcomes into two conditions and the result of the cycle. During a
shutdown the failures are told in one message instead, because they may be caused by it.
-/

set_option autoImplicit false

namespace Registrar.Cycle

structure Outcomes where
  deletion : Option Failure
  check : Option Failure
  /-- What the check answered; it is false if the check failed. -/
  ready : Bool
  application : Option Failure
deriving Repr, Inhabited

structure Report where
  degraded : Condition
  available : Condition
  result : Except Failure Unit

namespace Outcomes

def failed (outcomes : Outcomes) : Bool :=
  outcomes.deletion.isSome || outcomes.check.isSome || outcomes.application.isSome

/-- The condition that tells whether disabled registrations are left over. -/
def degraded (outcomes : Outcomes) (now : String) : Condition :=
  match outcomes.deletion with
  | none => .notDegraded now
  | some failure =>
      (Condition.notDegraded now).set .true .disabledRegistrationsPresent failure.message

/-- The condition that tells whether the enabled registrations are served. -/
def available (outcomes : Outcomes) (now : String) : Condition :=
  let healthy := Condition.available now
  let checked :=
    match outcomes.check with
    | none => healthy
    | some failure => healthy.set .false .errorCheckingPrecondition failure.message
  if outcomes.check.isNone && !outcomes.ready then
    healthy.set .false .preconditionNotReady ConditionReason.preconditionNotReady.name
  else
    match outcomes.application with
    | none => checked
    | some failure => checked.set .false .error failure.message

theorem reason_degraded_mem (outcomes : Outcomes) (now : String) :
    (outcomes.degraded now).reason ∈ ConditionReason.all.map ConditionReason.name := by
  unfold degraded
  cases outcomes.deletion with
  | none => exact ConditionReason.name_mem .asExpected
  | some failure => exact ConditionReason.name_mem .disabledRegistrationsPresent

theorem reason_available_mem (outcomes : Outcomes) (now : String) :
    (outcomes.available now).reason ∈ ConditionReason.all.map ConditionReason.name := by
  unfold available
  dsimp only
  split
  · exact ConditionReason.name_mem .preconditionNotReady
  · cases outcomes.application with
    | some failure => exact ConditionReason.name_mem .error
    | none =>
        cases outcomes.check with
        | none => exact ConditionReason.name_mem .asExpected
        | some failure => exact ConditionReason.name_mem .errorCheckingPrecondition

/-- The failures that the result of the cycle tells. While the services are not ready nothing has
been applied, so the phase of applies tells none. -/
def failures (outcomes : Outcomes) : List Failure :=
  if outcomes.check.isNone && !outcomes.ready then outcomes.deletion.toList
  else outcomes.deletion.toList ++ outcomes.check.toList ++ outcomes.application.toList

/-- The report of a cycle; each condition carries its own reading of the clock. -/
def report (outcomes : Outcomes) (degradedAt availableAt : String) : Report where
  degraded := outcomes.degraded degradedAt
  available := outcomes.available availableAt
  result := aggregate outcomes.failures

def causes (outcomes : Outcomes) : List String :=
  (outcomes.deletion.toList.map fun failure =>
    "failed to delete disabled APIs: " ++ failure.message) ++
  (outcomes.check.toList.map fun failure =>
    "failed to check precondition for enabled APIs: " ++ failure.message) ++
  (outcomes.application.toList.map fun failure =>
    "failed to reconcile enabled APIs: " ++ failure.message)

/-- Causes in one text: one alone as it is, and any other number of them as a list in brackets. -/
def joinCauses : List String → String
  | [only] => only
  | causes => "[" ++ ", ".intercalate causes ++ "]"

/-- Causes are put together in the way in which an aggregate puts its messages together. -/
theorem joinCauses_eq (causes : List String) :
    joinCauses causes = Failure.joinMessages causes := by
  unfold joinCauses Failure.joinMessages
  split <;> simp only [Failure.listMessages_eq_intercalate]

def shutdownFailure (outcomes : Outcomes) : Failure :=
  .shuttingDown ("the operator is shutting down, skipping updating conditions, err = " ++
    joinCauses outcomes.causes)

end Outcomes

end Registrar.Cycle
