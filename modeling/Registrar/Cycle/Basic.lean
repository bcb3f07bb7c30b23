import Registrar.Cycle.Lists
import Registrar.Cycle.Report
import Registrar.Sorted
/-!
# The cycle

One cycle reads the instruction, deletes the disabled registrations that still exist, applies the
enabled ones once their services are ready, and reports the outcome. Nothing is carried over from
one cycle to the next: a cycle that fails part way is simply done again from the start.
-/

set_option autoImplicit false

namespace Registrar.Cycle

def resourceName : String :=
  "apiservices.apiregistration.k8s.io"

/-- Delete a registration if it exists and is not being deleted already. That it is gone by now is
no failure. -/
def deleteOne (name : String) : Program (Option Failure) := do
  match ← call (.cached name) with
  | none => return none
  | some existing =>
      if existing.isDeleting then return none
      else
        call (.observe .delete)
        match ← call (.delete name) with
        | .ok () => return none
        | .error failure => return if failure.isNotFound then none else some failure

/-- Delete registrations in order; one that fails does not stop the others. -/
def deleteAll : List Registration → Program (List Failure)
  | [] => return []
  | registration :: rest => do
      let failure ← deleteOne registration.name
      let failures ← deleteAll rest
      return failure.toList ++ failures

def syncDisabled (registrations : List Registration) : Program (Except Failure Unit) := do
  return aggregate (← deleteAll registrations)

/-- The message for a registration that is applied but not served, if it is one. -/
def unavailableMessage? (applied : Registration) : Option String :=
  match applied.availableCondition with
  | none => none
  | some condition =>
      if condition.status = .true then none
      else some (resourceName ++ "/" ++ applied.name ++ ": not available: " ++ condition.message)

/-- Failures of applies, and messages on what was applied but is not served. -/
structure Application where
  failures : List Failure := []
  messages : List String := []

def applyOne (registration : Registration) : Program Application := do
  match ← call (.apply registration.withDefaults) with
  | .error failure => return { failures := [failure] }
  | .ok applied =>
      call (.observe (.apply applied.changed))
      return { messages := (unavailableMessage? applied.object).toList }

/-- Apply registrations in order; one that fails does not stop the others. -/
def applyAll : List Registration → Program Application
  | [] => return {}
  | registration :: rest => do
      let first ← applyOne registration
      let others ← applyAll rest
      return ⟨first.failures ++ others.failures, first.messages ++ others.messages⟩

/-- Messages as one failure. They are sorted, so that the text does not depend on their order. -/
def unavailable (messages : List String) : Failure :=
  .unavailable ("\n".intercalate (messages.mergeSort fun left right => decide (left ≤ right)))

def verdict (messages : List String) : Except Failure Unit :=
  match messages with
  | [] => .ok ()
  | _ :: _ => .error (unavailable messages)

def groupVersions (registrations : List Registration) : List GroupVersion :=
  Sorted.ofList GroupVersion.compare (registrations.map Registration.groupVersion)

/-- Apply every registration and verify that it is served. The server can call a registration
available before discovery serves it, so discovery is asked as well if `prober` holds. -/
def syncEnabled (prober : Bool) (registrations : List Registration) :
    Program (Except Failure Unit) := do
  let application ← applyAll registrations
  match aggregate application.failures, application.messages with
  | .error failure, _ => return .error failure
  | .ok (), _ :: _ => return verdict application.messages
  | .ok (), [] =>
      if prober then return verdict (← call (.probe (groupVersions registrations)))
      else return .ok ()

/-- Report the outcome of the phases. A failure to write the report replaces the result. Failures
during a shutdown are not reported. -/
def updateStatus (outcomes : Outcomes) : Program (Except Failure Unit) := do
  let suppressed ← if outcomes.failed then call .isShuttingDown else pure false
  if suppressed then return .error outcomes.shutdownFailure
  else
    let degradedAt ← call .now
    let availableAt ← call .now
    let report := outcomes.report degradedAt availableAt
    call (.observe (.conditionStatus report.degraded.type report.degraded.status.isTrue))
    call (.observe (.conditionStatus report.available.type report.available.status.isTrue))
    match ← call (.writeConditions [report.degraded, report.available]) with
    | .error failure => return .error failure
    | .ok () => return report.result

def failureOf (result : Except Failure Unit) : Option Failure :=
  match result with
  | .ok () => none
  | .error failure => some failure

def syncManaged (prober : Bool) (lists : ManagedRegistrations) :
    Program (Except Failure Unit) := do
  let deletion := failureOf (← syncDisabled lists.disabled)
  match ← call (.check lists.enabled) with
  | .error failure => updateStatus ⟨deletion, some failure, false, none⟩
  | .ok false => updateStatus ⟨deletion, none, false, none⟩
  | .ok true =>
      let application := failureOf (← syncEnabled prober lists.enabled)
      updateStatus ⟨deletion, none, true, application⟩

def sync (prober : Bool) : Program (Except Failure Unit) := do
  match ← call .readMode with
  | .error failure => return .error failure
  | .ok .unmanaged => return .ok ()
  | .ok (.unknown name) =>
      call (.warn "ManagementStateUnknown"
        ("Unrecognized operator management state " ++ Text.quote name))
      return .ok ()
  | .ok .removed =>
      match ← listManaged with
      | .error failure => return .error failure
      | .ok lists => syncDisabled (lists.enabled ++ lists.disabled)
  | .ok .managed =>
      match ← listManaged with
      | .error failure => return .error failure
      | .ok lists => syncManaged prober lists

end Registrar.Cycle
