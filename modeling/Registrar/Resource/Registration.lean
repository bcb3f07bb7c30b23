import Registrar.Resource.ConditionStatus
import Registrar.Resource.Metadata
/-!
# Registrations of aggregated APIs

A registration tells the API server which service answers for one version of an API group. The
server reports back through conditions. Only the port of the service has a default that the server
would fill in, and `withDefaults` fills it in beforehand.
-/

set_option autoImplicit false

namespace Registrar

/-- The service that answers for an aggregated API. -/
structure ServiceReference where
  namespaceName : String
  name : String
  port : Option Int32
deriving DecidableEq, Repr, Inhabited

namespace ServiceReference

def defaultPort : Int32 :=
  443

def withDefaults (service : ServiceReference) : ServiceReference :=
  { service with port := some (service.port.getD defaultPort) }

def outline : Outline where
  title := "struct ServiceReference"
  fields := ["namespace", "name", "port"]
  defaulted := ["namespace"]

structure Draft where
  namespaceName : Option String := none
  name : Option String := none
  port : Option Int32 := none
deriving DecidableEq, Repr

def readField {ν : Type} {m : Type → Type} [Monad m] [Format ν m] (name : String) (value : ν)
    (draft : Draft) : m Draft :=
  match name with
  | "namespace" => return { draft with namespaceName := some (← Format.string value) }
  | "name" => return { draft with name := some (← Format.string value) }
  | "port" => return { draft with port := ← Format.optional Format.int32 value }
  | _ => pure draft

/-- The reference that was read; an absent namespace is empty. -/
def finish (draft : Draft) : Decoded ServiceReference := do
  let name ← required "name" draft.name
  return ⟨draft.namespaceName.getD "", name, draft.port⟩

def read {ν : Type} {m : Type → Type} [Monad m] [Format ν m] : ν → m ServiceReference :=
  Format.record outline {} readField finish

/-- The reference as an object; the namespace is always written. -/
def toJson (service : ServiceReference) : Json :=
  .object <|
    [("namespace", .string service.namespaceName), ("name", .string service.name)] ++
    Json.member? "port" (service.port.map .ofInt32)

end ServiceReference

structure GroupVersion where
  group : String
  version : String
deriving DecidableEq, Repr, Inhabited

namespace GroupVersion

def describe (groupVersion : GroupVersion) : String :=
  groupVersion.group ++ "/" ++ groupVersion.version

def compare (left right : GroupVersion) : Ordering :=
  (Ord.compare left.group right.group).then (Ord.compare left.version right.version)

end GroupVersion

structure RegistrationSpec where
  /-- Without a service the API is answered by the API server itself. -/
  service : Option ServiceReference
  group : String
  version : String
  insecureSkipTlsVerify : Bool
  caBundle : Option String
  groupPriorityMinimum : Int32
  versionPriority : Int32
deriving DecidableEq, Repr, Inhabited

namespace RegistrationSpec

def outline : Outline where
  title := "struct APIServiceSpec"
  fields :=
    ["service", "group", "version", "insecureSkipTlsVerify", "caBundle", "groupPriorityMinimum",
      "versionPriority"]
  defaulted := ["insecureSkipTlsVerify"]

structure Draft where
  service : Option ServiceReference := none
  group : Option String := none
  version : Option String := none
  insecureSkipTlsVerify : Option Bool := none
  caBundle : Option String := none
  groupPriorityMinimum : Option Int32 := none
  versionPriority : Option Int32 := none
deriving DecidableEq, Repr

def readField {ν : Type} {m : Type → Type} [Monad m] [Format ν m] (name : String) (value : ν)
    (draft : Draft) : m Draft :=
  match name with
  | "service" => return { draft with service := ← Format.optional ServiceReference.read value }
  | "group" => return { draft with group := some (← Format.string value) }
  | "version" => return { draft with version := some (← Format.string value) }
  | "insecureSkipTlsVerify" =>
      return { draft with insecureSkipTlsVerify := some (← Format.bool value) }
  | "caBundle" => return { draft with caBundle := ← Format.optional Format.string value }
  | "groupPriorityMinimum" =>
      return { draft with groupPriorityMinimum := some (← Format.int32 value) }
  | "versionPriority" => return { draft with versionPriority := some (← Format.int32 value) }
  | _ => pure draft

def finish (draft : Draft) : Decoded RegistrationSpec := do
  let group ← required "group" draft.group
  let version ← required "version" draft.version
  let groupPriorityMinimum ← required "groupPriorityMinimum" draft.groupPriorityMinimum
  let versionPriority ← required "versionPriority" draft.versionPriority
  return {
    service := draft.service
    group, version
    insecureSkipTlsVerify := draft.insecureSkipTlsVerify.getD false
    caBundle := draft.caBundle
    groupPriorityMinimum, versionPriority }

def read {ν : Type} {m : Type → Type} [Monad m] [Format ν m] : ν → m RegistrationSpec :=
  Format.record outline {} readField finish

/-- The specification as an object; a flag that is not set is not written. -/
def toJson (spec : RegistrationSpec) : Json :=
  .object <|
    Json.member? "service" (spec.service.map ServiceReference.toJson) ++
    [("group", .string spec.group), ("version", .string spec.version)] ++
    (if spec.insecureSkipTlsVerify then [("insecureSkipTlsVerify", .bool true)] else []) ++
    Json.member? "caBundle" (spec.caBundle.map .string) ++
    [("groupPriorityMinimum", .ofInt32 spec.groupPriorityMinimum),
      ("versionPriority", .ofInt32 spec.versionPriority)]

end RegistrationSpec

/-- A condition that the API server reports on a registration. -/
structure ServedCondition where
  type : String
  status : ConditionStatus
  lastTransitionTime : Option String
  reason : String
  message : String
deriving DecidableEq, Repr, Inhabited

namespace ServedCondition

def outline : Outline where
  title := "struct APIServiceCondition"
  fields := ["type", "status", "lastTransitionTime", "reason", "message"]
  defaulted := ["reason", "message"]

structure Draft where
  type : Option String := none
  status : Option ConditionStatus := none
  lastTransitionTime : Option String := none
  reason : Option String := none
  message : Option String := none

def readField (name : String) (value : Json) (draft : Draft) : Decoded Draft :=
  match name with
  | "type" => return { draft with type := some (← value.toText) }
  | "status" => return { draft with status := some (← ConditionStatus.ofJson value) }
  | "lastTransitionTime" =>
      return { draft with lastTransitionTime := ← Json.toOption Json.toText value }
  | "reason" => return { draft with reason := some (← value.toText) }
  | "message" => return { draft with message := some (← value.toText) }
  | _ => .ok draft

def finish (draft : Draft) : Decoded ServedCondition := do
  let type ← required "type" draft.type
  let status ← required "status" draft.status
  return {
    type, status
    lastTransitionTime := draft.lastTransitionTime
    reason := draft.reason.getD ""
    message := draft.message.getD "" }

def ofJson : Json → Decoded ServedCondition :=
  Json.toRecord outline {} readField finish

def toJson (condition : ServedCondition) : Json :=
  .object <|
    [("type", .string condition.type), ("status", condition.status.toJson)] ++
    Json.member? "lastTransitionTime" (condition.lastTransitionTime.map .string) ++
    [("reason", .string condition.reason), ("message", .string condition.message)]

end ServedCondition

/-- What the API server reports on a registration. -/
structure RegistrationStatus where
  conditions : List ServedCondition
deriving DecidableEq, Repr, Inhabited

namespace RegistrationStatus

def outline : Outline where
  title := "struct APIServiceStatus"
  fields := ["conditions"]
  defaulted := ["conditions"]

def readField (name : String) (value : Json) (draft : Option (List ServedCondition)) :
    Decoded (Option (List ServedCondition)) :=
  match name with
  | "conditions" => (Json.toList ServedCondition.ofJson value).map some
  | _ => .ok draft

def ofJson : Json → Decoded RegistrationStatus :=
  Json.toRecord outline none readField fun draft => .ok ⟨draft.getD []⟩

def toJson (status : RegistrationStatus) : Json :=
  .object [("conditions", .array (status.conditions.map ServedCondition.toJson))]

end RegistrationStatus

structure Registration where
  metadata : Metadata
  spec : RegistrationSpec
  status : Option RegistrationStatus
deriving DecidableEq, Repr, Inhabited

namespace Registration

def apiVersion : String :=
  "apiregistration.k8s.io/v1"

def kind : String :=
  "APIService"

def named (name : String) (spec : RegistrationSpec) : Registration where
  metadata := { name := some name }
  spec := spec
  status := none

def name (registration : Registration) : String :=
  registration.metadata.displayName

def groupVersion (registration : Registration) : GroupVersion :=
  ⟨registration.spec.group, registration.spec.version⟩

def withDefaults (registration : Registration) : Registration :=
  { registration with
    spec := { registration.spec with
      service := registration.spec.service.map ServiceReference.withDefaults } }

/-- The first condition of the type that tells whether the API is served. -/
def availableCondition (registration : Registration) : Option ServedCondition :=
  registration.status.bind fun status =>
    status.conditions.find? fun condition => condition.type = "Available"

/-- A condition tells whether the API is served, and no earlier one does. -/
def FirstAvailable (registration : Registration) (condition : ServedCondition) : Prop :=
  ∃ status earlier later, registration.status = some status ∧
    status.conditions = earlier ++ condition :: later ∧ condition.type = "Available" ∧
    ∀ other ∈ earlier, other.type ≠ "Available"

theorem availableCondition_eq_some_iff (registration : Registration)
    (condition : ServedCondition) :
    registration.availableCondition = some condition ↔ registration.FirstAvailable condition := by
  unfold availableCondition FirstAvailable
  simp only [Option.bind_eq_some_iff, List.find?_eq_some_iff_append, decide_eq_true_eq,
    Bool.not_eq_true', decide_eq_false_iff_not]
  constructor
  · rintro ⟨status, reported, type, earlier, later, same, before⟩
    exact ⟨status, earlier, later, reported, same, type, before⟩
  · rintro ⟨status, earlier, later, reported, same, type, before⟩
    exact ⟨status, reported, type, earlier, later, same, before⟩

def isDeleting (registration : Registration) : Bool :=
  registration.metadata.deletionTimestamp.isSome

theorem isDeleting_iff (registration : Registration) :
    registration.isDeleting = true ↔
      ∃ time, registration.metadata.deletionTimestamp = some time :=
  Option.isSome_iff_exists

theorem isDeleting_eq_false_iff (registration : Registration) :
    registration.isDeleting = false ↔ registration.metadata.deletionTimestamp = none :=
  Option.isSome_eq_false_iff.trans Option.isNone_iff_eq_none

def outline : Outline where
  title := "struct APIService"
  fields := ["metadata", "spec", "status"]
  defaulted := []

structure Draft where
  metadata : Option Metadata := none
  spec : Option RegistrationSpec := none
  status : Option RegistrationStatus := none

def readField (name : String) (value : Json) (draft : Draft) : Decoded Draft :=
  match name with
  | "metadata" => return { draft with metadata := some (← Metadata.ofJson value) }
  | "spec" => return { draft with spec := some (← RegistrationSpec.read value) }
  | "status" => return { draft with status := ← Json.toOption RegistrationStatus.ofJson value }
  | _ => .ok draft

def finish (draft : Draft) : Decoded Registration := do
  let metadata ← required "metadata" draft.metadata
  let spec ← required "spec" draft.spec
  return ⟨metadata, spec, draft.status⟩

def ofJson : Json → Decoded Registration :=
  Json.toRecord outline {} readField finish

def toJson (registration : Registration) : Json :=
  .object <|
    [("apiVersion", .string apiVersion), ("kind", .string kind),
      ("metadata", registration.metadata.toJson), ("spec", registration.spec.toJson)] ++
    Json.member? "status" (registration.status.map RegistrationStatus.toJson)

end Registration

end Registrar
