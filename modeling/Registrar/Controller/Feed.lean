import Registrar.Api.Listing
import Registrar.Cache
import Registrar.Cluster.Cycle
/-!
# Feeds

A feed follows one collection: it lists the objects, then watches for changes. A change that cannot
be read is passed over. A server that has forgotten the version of a feed makes it list again, and
so does an object without a version, because nothing could be followed from there.
-/

set_option autoImplicit false

namespace Registrar.Controller

open Api
open Cluster (Identity)

inductive Feed where
  | cache
  | operators
  | registrations
  | services
  | endpoints
deriving DecidableEq, Repr, Inhabited

namespace Feed

abbrev Object : Feed → Type
  | cache => Registration
  | operators => Operator
  | registrations => Registration
  | services => Metadata
  | endpoints => Metadata

def metadataOf : (feed : Feed) → feed.Object → Metadata
  | cache => Registration.metadata
  | operators => Operator.metadata
  | registrations => Registration.metadata
  | services => id
  | endpoints => id

def readMetadata (kind : String) : Json → Decoded Metadata :=
  Json.toLooseRecord kind {} fun name value draft =>
    match name with
    | "apiVersion" => (Endpoints.readFixed "v1" value).map fun _ => draft
    | "kind" => (Endpoints.readFixed kind value).map fun _ => draft
    | "metadata" => Metadata.ofJson value
    | _ => .ok draft

def read : (feed : Feed) → Json → Decoded feed.Object
  | cache => Registration.ofJson
  | operators => Operator.ofJson
  | registrations => Registration.ofJson
  | services => readMetadata "Service"
  | endpoints => fun value => (Endpoints.ofJson value).map Endpoints.metadata

def collection (identity : Identity) : Feed → String
  | cache => Collection.registrations
  | operators => Collection.operators
  | registrations => Collection.registrations
  | services => Collection.services identity.home
  | endpoints => Collection.endpoints identity.home

def selectors (identity : Identity) : Feed → List String
  | operators => [Request.nameSelector identity.operatorName]
  | _ => []

def listRequest (identity : Identity) (feed : Feed) : Except ClusterFailure Request :=
  Request.list (feed.collection identity) (feed.selectors identity)

def watchRequest (identity : Identity) (feed : Feed) : Except ClusterFailure Request :=
  Request.watch (feed.collection identity) (feed.selectors identity)

def takeListing (feed : Feed) (reply : Except String Response) : Option (List feed.Object) :=
  match Cluster.outcome (Listing.read feed.read) reply with
  | .error _ => none
  | .ok listing => if listing.version.getD "" = "" then none else some listing.items

inductive Change (α : Type) where
  | event (event : CacheEvent α)
  /-- There is nothing to be learned from it. -/
  | nothing
  | outdated

def changeOf (feed : Feed) (make : feed.Object → CacheEvent feed.Object) (value : Json) :
    Change feed.Object :=
  match feed.read value with
  | .error _ => .nothing
  | .ok object =>
      if (feed.metadataOf object).resourceVersion.getD "" = "" then .outdated
      else .event (make object)

def readChange (feed : Feed) (value : Json) : Change feed.Object :=
  let object := (value.get? "object").getD .null
  match value.get? "type" with
  | some (.string "ADDED") => feed.changeOf .applied object
  | some (.string "MODIFIED") => feed.changeOf .applied object
  | some (.string "DELETED") => feed.changeOf .deleted object
  | some (.string "ERROR") =>
      match Refusal.ofJson object with
      | .ok refusal => if refusal.code = 410 then .outdated else .nothing
      | .error _ => .nothing
  | _ => .nothing

/-- The milliseconds before a feed that has failed several times in a row tries again. -/
def pause (failures : Nat) : Nat :=
  min (800 * Decimal.twoTo failures) 30000

end Feed

end Registrar.Controller
