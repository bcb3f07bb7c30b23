import Registrar.Resource.Operator
import Registrar.Resource.Registration
import Registrar.Resource.Schema
/-!
# Definitions of the resources

A server learns of a kind of resource by a definition: its names, its version and the schema of its
objects.
-/

set_option autoImplicit false

namespace Registrar

/-- A column in which a listing shows a part of each object. -/
structure PrinterColumn where
  name : String
  type : String
  path : String
deriving DecidableEq, Repr, Inhabited

def PrinterColumn.toJson (column : PrinterColumn) : Json :=
  .object [("jsonPath", .string column.path), ("name", .string column.name),
    ("type", .string column.type)]

/-- The definition of a kind of resource that belongs to no namespace and reports a status. -/
structure ResourceDefinition where
  group : String
  version : String
  kind : String
  singular : String
  plural : String
  shortNames : List String
  columns : List PrinterColumn
  spec : Schema
  status : Schema
deriving DecidableEq, Repr, Inhabited

namespace ResourceDefinition

def schema (definition : ResourceDefinition) : Schema :=
  ((Schema.record [("spec", definition.spec), ("status", definition.status)] ["spec"]).described
    ("Auto-generated derived type for " ++ definition.kind ++ "Spec via `CustomResource`")).add
    "title" (.string definition.kind)

def toJson (definition : ResourceDefinition) : Json :=
  .object
    [("apiVersion", .string "apiextensions.k8s.io/v1"),
      ("kind", .string "CustomResourceDefinition"),
      ("metadata", .object [("name", .string (definition.plural ++ "." ++ definition.group))]),
      ("spec", .object
        [("group", .string definition.group),
          ("names", .object
            [("categories", .array []), ("kind", .string definition.kind),
              ("plural", .string definition.plural),
              ("shortNames", .strings definition.shortNames),
              ("singular", .string definition.singular)]),
          ("scope", .string "Cluster"),
          ("versions", .array
            [.object
              [("additionalPrinterColumns", .array (definition.columns.map PrinterColumn.toJson)),
                ("name", .string definition.version),
                ("schema", .object [("openAPIV3Schema", definition.schema.toJson)]),
                ("served", .bool true), ("storage", .bool true),
                ("subresources", .object [("status", .object [])])]])])]

end ResourceDefinition

def ConditionStatus.schema : Schema :=
  (Schema.text.described "Status of a condition: \"True\", \"False\", or \"Unknown\"").oneOf
    (variants.map Prod.fst)

def ServiceReference.schema : Schema :=
  (Schema.record
    [("name", .text), ("namespace", Schema.text.orElse (.string "")),
      ("port", (Schema.integer "int32").orNull)] ["name"]).described
    "Backing service; `None` means the API is served locally by the apiserver"

def RegistrationSpec.schema : Schema :=
  .record
    [("caBundle", Schema.text.orNull), ("group", .text),
      ("groupPriorityMinimum", .integer "int32"), ("insecureSkipTlsVerify", .boolean),
      ("service", ServiceReference.schema.orNull), ("version", .text),
      ("versionPriority", .integer "int32")]
    ["group", "groupPriorityMinimum", "version", "versionPriority"]

def ServedCondition.schema : Schema :=
  .record
    [("lastTransitionTime", Schema.text.orNull), ("message", Schema.text.orElse (.string "")),
      ("reason", Schema.text.orElse (.string "")), ("status", ConditionStatus.schema),
      ("type", .text)] ["status", "type"]

def RegistrationStatus.schema : Schema :=
  .record [("conditions", (Schema.list ServedCondition.schema).orElse (.array []))] []

def Registration.definition : ResourceDefinition where
  group := "apiregistration.k8s.io"
  version := "v1"
  kind := kind
  singular := "apiservice"
  plural := "apiservices"
  shortNames := []
  columns := []
  spec := RegistrationSpec.schema
  status := RegistrationStatus.schema.orNull

def OperatorSpec.schema : Schema :=
  .record
    [("managementState",
      (Schema.text.described "Managed, Unmanaged or Removed").orElse
        (.string ManagementState.managed.name))] []

def Condition.schema : Schema :=
  (Schema.record
    [("lastTransitionTime",
        (Schema.text.described "Last time the condition transitioned").orElse (.string "")),
      ("message", (Schema.text.described "Human-readable message").orElse (.string "")),
      ("reason",
        (Schema.text.described "Machine-readable reason for the condition").orElse (.string "")),
      ("status", ConditionStatus.schema),
      ("type", Schema.text.described "Type of condition (e.g., \"RegistrationsAvailable\")")]
    ["status", "type"]).described "Kubernetes-style condition on the operator status"

def OperatorStatus.schema : Schema :=
  .record
    [("conditions", (Schema.list Condition.schema).orElse (.array [])),
      ("observedGeneration", (Schema.integer "int64").orNull)] []

def Condition.column (title type : String) : PrinterColumn where
  name := title
  type := "string"
  path := ".status.conditions[?(@.type==" ++ "'" ++ type ++ "'" ++ ")].status"

def Operator.definition : ResourceDefinition where
  group := "operator.apiservices.io"
  version := "v1alpha1"
  kind := kind
  singular := "apiserviceoperator"
  plural := "apiserviceoperators"
  shortNames := ["apisvcop"]
  columns :=
    [⟨"State", "string", ".spec.managementState"⟩,
      Condition.column "Available" Condition.availableType,
      Condition.column "Degraded" Condition.degradedType,
      ⟨"Age", "date", ".metadata.creationTimestamp"⟩]
  spec := OperatorSpec.schema
  status := OperatorStatus.schema.orNull

end Registrar
