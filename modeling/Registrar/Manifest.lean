import Registrar.Failure.Basic
import Registrar.Resource.Registration
import Registrar.Yaml.FromYaml
/-!
# The manifest

A manifest lists every registration that the operator owns, each with a flag that says whether it
is wanted. Every entry must be named after its version and group. A manifest splits into the wanted
registrations and the others, both in the order of the manifest and both stamped with the label
that marks them as owned.
-/

set_option autoImplicit false

namespace Registrar

open Yaml (Node Reading)

structure ManifestEntry where
  name : String
  enabled : Bool
  labels : Dictionary
  spec : RegistrationSpec
deriving DecidableEq, Repr, Inhabited

/-- The registrations that the operator owns, by whether they are wanted. -/
structure ManagedRegistrations where
  enabled : List Registration := []
  disabled : List Registration := []
deriving DecidableEq, Repr, Inhabited

namespace ManifestEntry

def ownerLabel : String :=
  "app.kubernetes.io/managed-by"

def ownerValue : String :=
  "apiservice-operator"

def expectedName (entry : ManifestEntry) : String :=
  entry.spec.version ++ "." ++ entry.spec.group

def validate (entry : ManifestEntry) : Except Failure Unit :=
  if entry.name = "" then .error (.config "manifest entry is missing a name")
  else if entry.name = entry.expectedName then .ok ()
  else
    .error (.config ("APIService " ++ entry.name ++ " must be named " ++ entry.expectedName ++
      " after its version and group"))

def registration (entry : ManifestEntry) : Registration where
  metadata := { name := some entry.name, labels := some (entry.labels.insert ownerLabel ownerValue) }
  spec := entry.spec
  status := none

def outline : Outline where
  title := "struct ManifestEntry"
  fields := ["name", "enabled", "labels", "spec"]
  defaulted := ["enabled", "labels"]

structure Draft where
  name : Option String := none
  enabled : Option Bool := none
  labels : Option Dictionary := none
  spec : Option RegistrationSpec := none

def readField (name : String) (value : Node) (draft : Draft) : Reading Draft :=
  match name with
  | "name" => return { draft with name := some (← Reading.text value) }
  | "enabled" => return { draft with enabled := some (← Reading.bool value) }
  | "labels" => return { draft with labels := some (← Reading.dictionary value) }
  | "spec" => return { draft with spec := some (← RegistrationSpec.read value) }
  | _ => return draft

/-- The entry that was read; it is wanted unless it says otherwise. -/
def finish (draft : Draft) : Decoded ManifestEntry := do
  let name ← required "name" draft.name
  let spec ← required "spec" draft.spec
  return ⟨name, draft.enabled.getD true, draft.labels.getD [], spec⟩

def read : Node → Reading ManifestEntry :=
  Reading.record outline {} readField finish

def toJson (entry : ManifestEntry) : Json :=
  .object
    [("name", .string entry.name), ("enabled", .bool entry.enabled),
      ("labels", .ofDictionary entry.labels), ("spec", entry.spec.toJson)]

end ManifestEntry

/-- A list of registrations that the operator owns. -/
structure Manifest where
  entries : List ManifestEntry
deriving DecidableEq, Repr, Inhabited

namespace Manifest

def outline : Outline where
  title := "struct RegistrationManifest"
  fields := ["apiServices"]
  defaulted := ["apiServices"]

def readField (name : String) (value : Node) (draft : List ManifestEntry) :
    Reading (List ManifestEntry) :=
  match name with
  | "apiServices" => Reading.list ManifestEntry.read value
  | _ => return draft

def read : Node → Reading Manifest :=
  Reading.record outline [] readField fun entries => .ok ⟨entries⟩

/-- Check the entries in order; the first one that is misnamed decides. -/
def validate (manifest : Manifest) : Except Failure Unit :=
  manifest.entries.forM ManifestEntry.validate

def parse (text : String) : Except Failure Manifest := do
  let manifest ←
    match Yaml.readDocument read text with
    | .ok manifest => .ok manifest
    | .error problem => .error (.manifest problem)
  manifest.validate
  return manifest

def managed (manifest : Manifest) : ManagedRegistrations where
  enabled := (manifest.entries.filter (·.enabled)).map ManifestEntry.registration
  disabled := (manifest.entries.filter (!·.enabled)).map ManifestEntry.registration

def toJson (manifest : Manifest) : Json :=
  .object [("apiServices", .array (manifest.entries.map ManifestEntry.toJson))]

end Manifest

end Registrar
