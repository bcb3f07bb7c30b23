import Registrar.Cluster.Objects
import Registrar.Metrics.Exposition
import Registrar.Shutdown
/-!
# Pages

The operator answers requests of its own: whether it is alive, whether it still takes on work, its
metrics, and what the operator resource says. Pages are only read; a page that is asked for by any
other method names the methods it knows.
-/

set_option autoImplicit false

namespace Registrar.Web

open Cluster (Talk ask)

structure Page where
  status : Nat
  contentType : Option String := none
  /-- The methods that the page knows, if the request used another one. -/
  allow : Option String := none
  body : String := ""
deriving DecidableEq, Repr, Inhabited

namespace Page

def json (status : Nat) (value : Json) : Page where
  status := status
  contentType := some "application/json"
  body := value.write

def text (content : String) : Page where
  status := 200
  contentType := some "text/plain; charset=utf-8"
  body := content

def empty (status : Nat) : Page where
  status := status

def withoutBody (page : Page) : Page :=
  { page with body := "" }

end Page

inductive Topic where
  | health
  | readiness
  | metrics
  | status
deriving DecidableEq, Repr, Inhabited

def Topic.ofPath? (path : String) : Option Topic :=
  [("/healthz", health), ("/readyz", readiness), ("/metrics", metrics),
    ("/api/v1/status", status)].lookup path

def health (version : String) : Page :=
  .json 200 (.object [("status", .string "healthy"), ("version", .string version)])

def readiness (shutdown : Shutdown) : Page :=
  .empty (if shutdown.isShuttingDown then 503 else 200)

def failure (status : Nat) (error message : String) : Page :=
  .json status (.object [("error", .string error), ("message", .string message)])

def statusOf (name : String) (operator : Operator) : Page :=
  .json 200 (.object
    [("name", .string name), ("managementState", .string operator.spec.managementState.name),
      ("conditions", .array ((Cluster.reported operator).map Condition.toJson))])

/-- The page on the operator resource, which is read anew for each request. -/
def status (name : String) : Talk Page := do
  match ← Cluster.readOptional Api.Collection.operators name Operator.ofJson with
  | .ok (some operator) => return statusOf name operator
  | .ok none => return failure 404 "not_found" ("APIServiceOperator " ++ name ++ " not found")
  | .error cause => return failure 500 "get_failed" cause.message

structure Site where
  operatorName : String
  version : String
  shutdown : Shutdown
  metrics : Metrics

def Site.page (site : Site) : Topic → Talk Page
  | .health => return health site.version
  | .readiness => return readiness site.shutdown
  | .metrics => return .text site.metrics.exposition
  | .status => status site.operatorName

def Site.respond (site : Site) (method path : String) : Talk Page :=
  match Topic.ofPath? path with
  | none => return .empty 404
  | some topic =>
      match method with
      | "GET" => site.page topic
      | "HEAD" => do return (← site.page topic).withoutBody
      | _ => return { status := 405, allow := some "GET,HEAD" }

def portTaken (port : String) : Failure :=
  .config ("Failed to bind to 0.0.0.0:" ++ port ++ ": " ++ systemErrorMessage 98)

end Registrar.Web
