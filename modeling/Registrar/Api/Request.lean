import Registrar.Api.Message
import Registrar.Failure.Basic
import Registrar.Resource.Operator
import Registrar.Resource.Endpoints
import Registrar.Resource.Registration
import Registrar.Text.FormEncoded
/-!
# The requests of the operator

Every request that the operator ever sends is built here from the data it is about. Building can
fail: an object needs a name, and no part of a target may hold a character that targets do not
admit. A request that cannot be built is never sent.
-/

set_option autoImplicit false

namespace Registrar.Api

def fieldManager : String :=
  "apiservice-operator"

def ownership : String :=
  "fieldManager=" ++ fieldManager

namespace Collection

def registrations : String :=
  "/apis/" ++ Registration.apiVersion ++ "/apiservices"

def operators : String :=
  "/apis/" ++ Operator.apiVersion ++ "/apiserviceoperators"

def inNamespace (namespaceName plural : String) : String :=
  "/api/v1/namespaces/" ++ namespaceName ++ "/" ++ plural

def services (namespaceName : String) : String :=
  inNamespace namespaceName "services"

def endpoints (namespaceName : String) : String :=
  inNamespace namespaceName "endpoints"

def events (namespaceName : String) : String :=
  inNamespace namespaceName "events"

end Collection

namespace Request

structure Content where
  type : String
  value : Json

def Content.json (value : Json) : Content :=
  ⟨"application/json", value⟩

/-- A request to a path with parameters. The whole target is read as one text, so a question mark
in a name starts the parameters. -/
def build (method : Method) (path : String) (parameters : List String)
    (content : Option Content := none) : Except ClusterFailure Request :=
  let query := if parameters.isEmpty then "" else "?" ++ "&".intercalate parameters
  match Target.parse? (path ++ query) with
  | none => .error .invalidPath
  | some target => .ok ⟨method, target, content.map Content.type, content.map Content.value⟩

def buildFor (method : Method) (collection name part : String) (parameters : List String)
    (content : Option Content := none) : Except ClusterFailure Request :=
  if name = "" then .error .emptyName
  else build method (collection ++ "/" ++ name ++ part) parameters content

def read (collection name : String) : Except ClusterFailure Request :=
  buildFor .get collection name "" []

def create (collection : String) (object : Json) : Except ClusterFailure Request :=
  build .post collection [] (some (.json object))

def delete (collection name : String) : Except ClusterFailure Request :=
  buildFor .delete collection name "" [] (some (.json (.object [])))

/-- Create an object, or take over an existing one, so that it is as given. -/
def apply (collection name : String) (object : Json) : Except ClusterFailure Request :=
  buildFor .patch collection name "" [ownership, "force=true"]
    (some ⟨"application/apply-patch+yaml", object⟩)

def mergeStatus (collection name : String) (value : Json) : Except ClusterFailure Request :=
  buildFor .patch collection name "/status" [ownership]
    (some ⟨"application/merge-patch+json", .object [("status", value)]⟩)

def nameSelector (name : String) : String :=
  "fieldSelector=" ++ Text.formEncode ("metadata.name=" ++ name)

def list (collection : String) (selectors : List String) : Except ClusterFailure Request :=
  build .get collection selectors

def watch (collection : String) (selectors : List String) : Except ClusterFailure Request :=
  build .get collection (selectors ++ ["watch=true"])

def discover (groupVersion : GroupVersion) : Except ClusterFailure Request :=
  (build .get ("/apis/" ++ groupVersion.describe) []).mapError fun _ => .invalidAddress

end Request

end Registrar.Api
