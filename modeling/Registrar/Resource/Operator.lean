import Registrar.Resource.Condition
import Registrar.Resource.ManagementState
import Registrar.Resource.Metadata
/-!
# The operator resource

One object of the cluster carries the instruction to the operator, and the operator's report: its
conditions and the generation of the instruction they belong to.
-/

set_option autoImplicit false

namespace Registrar

structure OperatorSpec where
  managementState : ManagementState
deriving DecidableEq, Repr, Inhabited

namespace OperatorSpec

def outline : Outline where
  title := "struct APIServiceOperatorSpec"
  fields := ["managementState"]
  defaulted := ["managementState"]

def readField (name : String) (value : Json) (draft : Option ManagementState) :
    Decoded (Option ManagementState) :=
  match name with
  | "managementState" => value.toText.map fun text => some (.ofName text)
  | _ => .ok draft

/-- Read an instruction; without a state it is the ordinary one. -/
def ofJson : Json → Decoded OperatorSpec :=
  Json.toRecord outline none readField fun draft => .ok ⟨draft.getD .managed⟩

def toJson (spec : OperatorSpec) : Json :=
  .object [("managementState", .string spec.managementState.name)]

end OperatorSpec

structure OperatorStatus where
  conditions : List Condition
  observedGeneration : Option Int64
deriving DecidableEq, Repr, Inhabited

namespace OperatorStatus

def outline : Outline where
  title := "struct APIServiceOperatorStatus"
  fields := ["conditions", "observedGeneration"]
  defaulted := ["conditions"]

structure Draft where
  conditions : Option (List Condition) := none
  observedGeneration : Option Int64 := none

def readField (name : String) (value : Json) (draft : Draft) : Decoded Draft :=
  match name with
  | "conditions" => return { draft with conditions := some (← Json.toList Condition.ofJson value) }
  | "observedGeneration" =>
      return { draft with observedGeneration := ← Json.toOption Json.toInt64 value }
  | _ => .ok draft

def ofJson : Json → Decoded OperatorStatus :=
  Json.toRecord outline {} readField fun draft =>
    .ok ⟨draft.conditions.getD [], draft.observedGeneration⟩

def toJson (status : OperatorStatus) : Json :=
  .object <|
    [("conditions", .array (status.conditions.map Condition.toJson))] ++
    Json.member? "observedGeneration" (status.observedGeneration.map .ofInt64)

end OperatorStatus

structure Operator where
  metadata : Metadata
  spec : OperatorSpec
  status : Option OperatorStatus
deriving DecidableEq, Repr, Inhabited

namespace Operator

def apiVersion : String :=
  "operator.apiservices.io/v1alpha1"

def kind : String :=
  "APIServiceOperator"

def named (name : String) : Operator where
  metadata := { name := some name }
  spec := ⟨.managed⟩
  status := none

def name (operator : Operator) : String :=
  operator.metadata.displayName

def outline : Outline where
  title := "struct APIServiceOperator"
  fields := ["metadata", "spec", "status"]
  defaulted := []

structure Draft where
  metadata : Option Metadata := none
  spec : Option OperatorSpec := none
  status : Option OperatorStatus := none

def readField (name : String) (value : Json) (draft : Draft) : Decoded Draft :=
  match name with
  | "metadata" => return { draft with metadata := some (← Metadata.ofJson value) }
  | "spec" => return { draft with spec := some (← OperatorSpec.ofJson value) }
  | "status" => return { draft with status := ← Json.toOption OperatorStatus.ofJson value }
  | _ => .ok draft

def finish (draft : Draft) : Decoded Operator := do
  let metadata ← required "metadata" draft.metadata
  let spec ← required "spec" draft.spec
  return ⟨metadata, spec, draft.status⟩

def ofJson : Json → Decoded Operator :=
  Json.toRecord outline {} readField finish

def toJson (operator : Operator) : Json :=
  .object <|
    [("apiVersion", .string apiVersion), ("kind", .string kind),
      ("metadata", operator.metadata.toJson), ("spec", operator.spec.toJson)] ++
    Json.member? "status" (operator.status.map OperatorStatus.toJson)

end Operator

end Registrar
