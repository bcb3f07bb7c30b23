import Registrar.Resource.ConditionStatus
/-!
# Conditions of the operator

The operator reports its health through typed conditions. A list of conditions is updated one type
at a time: the first condition of the type is overwritten in place, and the time of its last
transition moves only when its status does. Conditions of other types, and later ones of the same
type, are left alone.
-/

set_option autoImplicit false

namespace Registrar

inductive ConditionReason where
  /-- There is nothing to report. -/
  | asExpected
  | disabledRegistrationsPresent
  /-- The check before applying failed itself. -/
  | errorCheckingPrecondition
  /-- The backing services are not ready yet. -/
  | preconditionNotReady
  | error
deriving DecidableEq, Repr

namespace ConditionReason

def name : ConditionReason → String
  | asExpected => "AsExpected"
  | disabledRegistrationsPresent => "DisabledRegistrationsPresent"
  | errorCheckingPrecondition => "ErrorCheckingPrecondition"
  | preconditionNotReady => "PreconditionNotReady"
  | error => "Error"

def all : List ConditionReason :=
  [asExpected, disabledRegistrationsPresent, errorCheckingPrecondition, preconditionNotReady, error]

/-- Every reason is listed. -/
theorem mem_all (reason : ConditionReason) : reason ∈ all := by
  cases reason <;> simp [all]

theorem name_mem (reason : ConditionReason) : reason.name ∈ all.map name :=
  List.mem_map_of_mem reason.mem_all

end ConditionReason

structure Condition where
  type : String
  status : ConditionStatus
  lastTransitionTime : String
  reason : String
  message : String
deriving DecidableEq, Repr, Inhabited

namespace Condition

def new (type : String) (status : ConditionStatus) (now : String) : Condition where
  type := type
  status := status
  lastTransitionTime := now
  reason := ""
  message := ""

def set (condition : Condition) (status : ConditionStatus) (reason : ConditionReason)
    (message : String) : Condition :=
  { condition with status := status, reason := reason.name, message := message }

/-- The type that tells whether disabled registrations are left over. -/
def degradedType : String :=
  "RegistrationsDegraded"

/-- The type that tells whether the enabled registrations are served. -/
def availableType : String :=
  "RegistrationsAvailable"

def notDegraded (now : String) : Condition :=
  { new degradedType .false now with reason := ConditionReason.asExpected.name }

def available (now : String) : Condition :=
  { new availableType .true now with reason := ConditionReason.asExpected.name }

/-- The stored condition after it took over what the written one says. -/
def absorb (stored written : Condition) (now : String) : Condition :=
  { stored with
    status := written.status
    reason := written.reason
    message := written.message
    lastTransitionTime :=
      if stored.status = written.status then stored.lastTransitionTime else now }

/-- Write a condition into a list: over the first of its type, or else at the end. -/
def setIn (conditions : List Condition) (written : Condition) (now : String) : List Condition :=
  match conditions with
  | [] => [written]
  | stored :: rest =>
      if stored.type = written.type then stored.absorb written now :: rest
      else stored :: setIn rest written now

def find? (conditions : List Condition) (type : String) : Option Condition :=
  List.find? (fun condition => condition.type = type) conditions

/-- Writing a condition changes the first of its type, or adds one, and no first of another type. -/
theorem find?_setIn (conditions : List Condition) (written : Condition) (now type : String) :
    find? (setIn conditions written now) type =
      if type = written.type then
        some (((find? conditions type).map (·.absorb written now)).getD written)
      else find? conditions type := by
  fun_induction setIn conditions written now <;> grind [find?, absorb]

def outline : Outline where
  title := "struct Condition"
  fields := ["type", "status", "lastTransitionTime", "reason", "message"]
  defaulted := ["lastTransitionTime", "reason", "message"]

structure Draft where
  type : Option String := none
  status : Option ConditionStatus := none
  lastTransitionTime : Option String := none
  reason : Option String := none
  message : Option String := none

def readField (name : String) (value : Json) (draft : Draft) : Decoded Draft :=
  match name with
  | "type" => return { draft with type := some (← value.toText) }
  | "status" => return { draft with status := some (← ConditionStatus.ofJson value) }
  | "lastTransitionTime" => return { draft with lastTransitionTime := some (← value.toText) }
  | "reason" => return { draft with reason := some (← value.toText) }
  | "message" => return { draft with message := some (← value.toText) }
  | _ => .ok draft

/-- The condition that was read; absent texts are empty. -/
def finish (draft : Draft) : Decoded Condition := do
  let type ← required "type" draft.type
  let status ← required "status" draft.status
  return {
    type, status
    lastTransitionTime := draft.lastTransitionTime.getD ""
    reason := draft.reason.getD ""
    message := draft.message.getD "" }

def ofJson : Json → Decoded Condition :=
  Json.toRecord outline {} readField finish

def toJson (condition : Condition) : Json :=
  .object
    [("type", .string condition.type), ("status", condition.status.toJson),
      ("lastTransitionTime", .string condition.lastTransitionTime),
      ("reason", .string condition.reason), ("message", .string condition.message)]

end Condition

end Registrar
