import Registrar.Cluster.Client
import Registrar.Cycle.Calls
import Registrar.Readiness
/-!
# The objects of the cluster

How registrations, the operator resource, endpoints, discovery and events are read and written at
the API server.
-/

set_option autoImplicit false

namespace Registrar

/-- The registration without what only the server decides: its status, its resource version and
its managed fields. -/
def Registration.withoutServerState (registration : Registration) : Registration :=
  { registration with
    metadata := { registration.metadata with resourceVersion := none, managedFields := none }
    status := none }

namespace Cluster

open Api
open Registrar.Cycle (Applied)

def raise {α : Type} (result : Except ClusterFailure α) : Except Failure α :=
  result.mapError Failure.cluster

/-! ## Registrations -/

/-- The answer to a delete is the object, or a status in its place. -/
def checkDeleted (value : Json) : Decoded Unit :=
  if value.get? "kind" = some (.string "Status") then checkStatus value
  else (Registration.ofJson value).map fun _ => ()

/-- Delete a registration. That there is none is fine. -/
def deleteRegistration (name : String) : Talk (Except Failure Unit) := do
  match ← perform (Request.delete Collection.registrations name) checkDeleted with
  | .ok () => return .ok ()
  | .error failure =>
      return if failure.refusalCode? = some 404 then .ok () else .error (.cluster failure)

/-- Whether an apply made a difference: it made none if the stored version is the cached one. -/
def hasChanged (before after : Option String) : Bool :=
  match before, after with
  | some before, some after => before ≠ after
  | _, _ => true

def applyRegistration (desired : Registration) : Talk (Except Failure Applied) := do
  let cached ← ask (.cached desired.name)
  let before := cached.bind fun object => object.metadata.resourceVersion
  let request := Request.apply Collection.registrations desired.name
    desired.withoutServerState.toJson
  let stored ← perform request Registration.ofJson
  return raise (stored.map fun object =>
    ⟨object, hasChanged before object.metadata.resourceVersion⟩)

/-! ## The operator resource -/

def readOperator (name : String) : Talk (Except Failure Operator) := do
  match ← readOptional Collection.operators name Operator.ofJson with
  | .ok (some operator) => return .ok operator
  | .ok none => return .error (.notFound Operator.kind name)
  | .error failure => return .error (.cluster failure)

def readMode (name : String) : Talk (Except Failure ManagementState) := do
  return (← readOperator name).map fun operator => operator.spec.managementState

def reported (operator : Operator) : List Condition :=
  operator.status.elim [] OperatorStatus.conditions

/-- Write conditions into a list one after the other, each with its own reading of the clock. -/
def mergeConditions (existing : List Condition) : List Condition → Talk (List Condition)
  | [] => return existing
  | condition :: rest => do
      let now ← ask .now
      mergeConditions (Condition.setIn existing condition now) rest

def statusPatch (conditions : List Condition) (generation : Option Int64) : Json :=
  .object [("conditions", .array (conditions.map Condition.toJson)),
    ("observedGeneration", generation.elim .null .ofInt64)]

/-- Report conditions on the operator resource. Nothing is written if the resource says so
already. -/
def writeConditions (name : String) (conditions : List Condition) : Talk (Except Failure Unit) := do
  match ← readOperator name with
  | .error failure => return .error failure
  | .ok operator =>
      let merged ← mergeConditions (reported operator) conditions
      let generation := operator.metadata.generation
      let observed := operator.status.bind OperatorStatus.observedGeneration
      if merged = reported operator ∧ observed = generation then return .ok ()
      else
        let request := Request.mergeStatus Collection.operators name (statusPatch merged generation)
        let written ← perform request Operator.ofJson
        return raise (written.map fun _ => ())

/-- Create the operator resource with the ordinary instruction, unless it exists already. That
somebody else was faster is fine. -/
def ensureOperator (name : String) : Talk (Except Failure Unit) := do
  match ← readOptional Collection.operators name Operator.ofJson with
  | .error failure => return .error (.cluster failure)
  | .ok (some _) => return .ok ()
  | .ok none =>
      let request := Request.create Collection.operators (Operator.named name).toJson
      match ← perform request Operator.ofJson with
      | .ok _ => return .ok ()
      | .error failure =>
          return if failure.refusalCode? = some 409 then .ok () else .error (.cluster failure)

/-! ## Endpoints and discovery -/

def readEndpoints (key : Readiness.ServiceKey) : Talk (Except Failure (Option Endpoints)) := do
  return raise (← readOptional (Collection.endpoints key.namespaceName) key.name Endpoints.ofJson)

def missingMessage (groupVersion : GroupVersion) (failure : ClusterFailure) : String :=
  let subject := "apiservices.apiregistration.k8s.io/" ++ groupVersion.version ++ "." ++
    groupVersion.group ++ ": not available: "
  let other := subject ++ "discovery check for " ++ groupVersion.describe ++ " failed: " ++
    failure.message
  match failure with
  | .refused refusal =>
      if refusal.code = 404 ∨ refusal.code = 503 then
        subject ++ groupVersion.describe ++ " is missing from discovery: " ++ refusal.message
      else other
  | _ => other

/-- Ask discovery for one version; there is a message unless it is served. -/
def probeOne (groupVersion : GroupVersion) : Talk (Option String) := do
  match ← perform (Request.discover groupVersion) checkResourceList with
  | .ok () => return none
  | .error failure => return some (missingMessage groupVersion failure)

def probe : List GroupVersion → Talk (List String)
  | [] => return []
  | groupVersion :: rest => do
      let first ← probeOne groupVersion
      let others ← probe rest
      return first.toList ++ others

/-! ## Events -/

def warningEvent (operator reason message now : String) : Json :=
  .object
    [("apiVersion", .string "v1"), ("kind", .string "Event"), ("count", .integer 1),
      ("firstTimestamp", .string now), ("lastTimestamp", .string now),
      ("involvedObject", .object
        [("apiVersion", .string Operator.apiVersion), ("kind", .string Operator.kind),
          ("name", .string operator)]),
      ("message", .string message),
      ("metadata", .object [("generateName", .string (operator ++ "-event-"))]),
      ("reason", .string reason), ("reportingComponent", .string fieldManager),
      ("type", .string "Warning")]

/-- Post a warning. Whether that succeeds makes no difference. -/
def warn (operator home reason message : String) : Talk Unit := do
  let now ← ask .now
  let request := Request.create (Collection.events home)
    (warningEvent operator reason message now)
  let _ ← perform request fun _ => .ok ()
  return ()

end Cluster

end Registrar
