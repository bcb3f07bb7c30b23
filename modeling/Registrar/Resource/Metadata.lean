import Registrar.Decode.FromJson
import Registrar.Text.Dictionary
import Registrar.Time.Instant
/-!
# Object metadata

What every object of the cluster carries besides its own data. All parts may be absent, and an
absent part is not written. The name by which an object is addressed falls back to the stem from
which the server would generate one.
-/

set_option autoImplicit false

namespace Registrar

namespace Json

def toDictionary (value : Json) : Decoded Dictionary :=
  value.toTexts.map Dictionary.ofList

def ofDictionary (dictionary : Dictionary) : Json :=
  object (dictionary.map fun (key, value) => (key, string value))

def toInstant : Json → Decoded Instant
  | string text =>
      match Instant.parse text with
      | .ok instant => .ok instant
      | .error problem => .error (.custom problem.message)
  | other => .error (.wrongType other.found "an RFC 3339 formatted date and time string")

def ofInstant (instant : Instant) : Json :=
  string instant.write

def ofInt64 (value : Int64) : Json :=
  integer value.toInt

def ofInt32 (value : Int32) : Json :=
  integer value.toInt

end Json

structure ManagedFields where
  apiVersion : Option String := none
  fieldsType : Option String := none
  fieldsV1 : Option Json := none
  manager : Option String := none
  operation : Option String := none
  subresource : Option String := none
  time : Option Instant := none
deriving DecidableEq, Repr, Inhabited

structure OwnerReference where
  apiVersion : String := ""
  blockOwnerDeletion : Option Bool := none
  controller : Option Bool := none
  kind : String := ""
  name : String := ""
  uid : String := ""
deriving DecidableEq, Repr, Inhabited

structure Metadata where
  annotations : Option Dictionary := none
  creationTimestamp : Option Instant := none
  deletionGracePeriodSeconds : Option Int64 := none
  deletionTimestamp : Option Instant := none
  finalizers : Option (List String) := none
  generateName : Option String := none
  generation : Option Int64 := none
  labels : Option Dictionary := none
  managedFields : Option (List ManagedFields) := none
  name : Option String := none
  namespaceName : Option String := none
  ownerReferences : Option (List OwnerReference) := none
  resourceVersion : Option String := none
  selfLink : Option String := none
  uid : Option String := none
deriving DecidableEq, Repr, Inhabited

open Json (member? toOption toLooseRecord)

namespace ManagedFields

def readField (name : String) (value : Json) (fields : ManagedFields) : Decoded ManagedFields :=
  match name with
  | "apiVersion" => return { fields with apiVersion := ← toOption Json.toText value }
  | "fieldsType" => return { fields with fieldsType := ← toOption Json.toText value }
  | "fieldsV1" => return { fields with fieldsV1 := ← toOption (fun json => .ok json) value }
  | "manager" => return { fields with manager := ← toOption Json.toText value }
  | "operation" => return { fields with operation := ← toOption Json.toText value }
  | "subresource" => return { fields with subresource := ← toOption Json.toText value }
  | "time" => return { fields with time := ← toOption Json.toInstant value }
  | _ => .ok fields

def ofJson : Json → Decoded ManagedFields :=
  toLooseRecord "ManagedFieldsEntry" {} readField

def toJson (fields : ManagedFields) : Json :=
  .object <|
    member? "apiVersion" (fields.apiVersion.map .string) ++
    member? "fieldsType" (fields.fieldsType.map .string) ++
    member? "fieldsV1" fields.fieldsV1 ++
    member? "manager" (fields.manager.map .string) ++
    member? "operation" (fields.operation.map .string) ++
    member? "subresource" (fields.subresource.map .string) ++
    member? "time" (fields.time.map .ofInstant)

end ManagedFields

namespace OwnerReference

/-- Read one field; a text that is null counts as empty. -/
def readField (name : String) (value : Json) (owner : OwnerReference) : Decoded OwnerReference :=
  match name with
  | "apiVersion" => return { owner with apiVersion := (← toOption Json.toText value).getD "" }
  | "blockOwnerDeletion" =>
      return { owner with blockOwnerDeletion := ← toOption Json.toBool value }
  | "controller" => return { owner with controller := ← toOption Json.toBool value }
  | "kind" => return { owner with kind := (← toOption Json.toText value).getD "" }
  | "name" => return { owner with name := (← toOption Json.toText value).getD "" }
  | "uid" => return { owner with uid := (← toOption Json.toText value).getD "" }
  | _ => .ok owner

def ofJson : Json → Decoded OwnerReference :=
  toLooseRecord "OwnerReference" {} readField

def toJson (owner : OwnerReference) : Json :=
  .object <|
    [("apiVersion", .string owner.apiVersion)] ++
    member? "blockOwnerDeletion" (owner.blockOwnerDeletion.map .bool) ++
    member? "controller" (owner.controller.map .bool) ++
    [("kind", .string owner.kind), ("name", .string owner.name), ("uid", .string owner.uid)]

end OwnerReference

namespace Metadata

def displayName (metadata : Metadata) : String :=
  (metadata.name <|> metadata.generateName).getD ""

def readField (name : String) (value : Json) (metadata : Metadata) : Decoded Metadata :=
  match name with
  | "annotations" => return { metadata with annotations := ← toOption Json.toDictionary value }
  | "creationTimestamp" =>
      return { metadata with creationTimestamp := ← toOption Json.toInstant value }
  | "deletionGracePeriodSeconds" =>
      return { metadata with deletionGracePeriodSeconds := ← toOption Json.toInt64 value }
  | "deletionTimestamp" =>
      return { metadata with deletionTimestamp := ← toOption Json.toInstant value }
  | "finalizers" =>
      return { metadata with finalizers := ← toOption (Json.toList Json.toText) value }
  | "generateName" => return { metadata with generateName := ← toOption Json.toText value }
  | "generation" => return { metadata with generation := ← toOption Json.toInt64 value }
  | "labels" => return { metadata with labels := ← toOption Json.toDictionary value }
  | "managedFields" =>
      return { metadata with
        managedFields := ← toOption (Json.toList ManagedFields.ofJson) value }
  | "name" => return { metadata with name := ← toOption Json.toText value }
  | "namespace" => return { metadata with namespaceName := ← toOption Json.toText value }
  | "ownerReferences" =>
      return { metadata with
        ownerReferences := ← toOption (Json.toList OwnerReference.ofJson) value }
  | "resourceVersion" => return { metadata with resourceVersion := ← toOption Json.toText value }
  | "selfLink" => return { metadata with selfLink := ← toOption Json.toText value }
  | "uid" => return { metadata with uid := ← toOption Json.toText value }
  | _ => .ok metadata

def ofJson : Json → Decoded Metadata :=
  toLooseRecord "ObjectMeta" {} readField

def toJson (metadata : Metadata) : Json :=
  .object <|
    member? "annotations" (metadata.annotations.map .ofDictionary) ++
    member? "creationTimestamp" (metadata.creationTimestamp.map .ofInstant) ++
    member? "deletionGracePeriodSeconds" (metadata.deletionGracePeriodSeconds.map .ofInt64) ++
    member? "deletionTimestamp" (metadata.deletionTimestamp.map .ofInstant) ++
    member? "finalizers" (metadata.finalizers.map .strings) ++
    member? "generateName" (metadata.generateName.map .string) ++
    member? "generation" (metadata.generation.map .ofInt64) ++
    member? "labels" (metadata.labels.map .ofDictionary) ++
    member? "managedFields"
      (metadata.managedFields.map fun entries => .array (entries.map ManagedFields.toJson)) ++
    member? "name" (metadata.name.map .string) ++
    member? "namespace" (metadata.namespaceName.map .string) ++
    member? "ownerReferences"
      (metadata.ownerReferences.map fun owners => .array (owners.map OwnerReference.toJson)) ++
    member? "resourceVersion" (metadata.resourceVersion.map .string) ++
    member? "selfLink" (metadata.selfLink.map .string) ++
    member? "uid" (metadata.uid.map .string)

end Metadata

end Registrar
