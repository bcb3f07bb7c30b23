import Registrar.Failure.Basic
import Registrar.Interaction
import Registrar.Resource.Endpoints
import Registrar.Resource.Registration
import Registrar.Sorted
/-!
# The readiness gate

A registration whose service cannot answer breaks discovery for the whole cluster. So before
anything is applied, the endpoints of every service that a registration refers to are read, each
once and in the order of namespace and name. The first service that is missing, has no ready
address or cannot be read decides the answer, and no further one is read.
-/

set_option autoImplicit false

namespace Registrar.Readiness

structure ServiceKey where
  namespaceName : String
  name : String
deriving DecidableEq, Repr, Inhabited

namespace ServiceKey

def compare (left right : ServiceKey) : Ordering :=
  (Ord.compare left.namespaceName right.namespaceName).then (Ord.compare left.name right.name)

def describe (key : ServiceKey) : String :=
  key.namespaceName ++ "/" ++ key.name

/-- The key of a service reference; `home` is used where the reference leaves the namespace
empty. -/
def ofReference (home : String) (service : ServiceReference) : ServiceKey where
  namespaceName := if service.namespaceName = "" then home else service.namespaceName
  name := service.name

end ServiceKey

/-- The keys of all services that registrations refer to, in order and each of them once. -/
def backingServices (home : String) (enabled : List Registration) : List ServiceKey :=
  Sorted.ofList ServiceKey.compare
    (enabled.filterMap fun registration =>
      registration.spec.service.map (ServiceKey.ofReference home))

/-- Reading the endpoints of a service; there may be none. -/
def reading : Signature where
  Question := ServiceKey
  Reply _ := Except Failure (Option Endpoints)

/-- Read services in order until one decides that the gate stays shut. -/
def checkServices : List ServiceKey → Interaction reading (Except Failure Bool)
  | [] => return .ok true
  | key :: rest => do
      match ← Interaction.ask key .done with
      | .error failure => return .error failure
      | .ok none => return .ok false
      | .ok (some endpoints) =>
          if endpoints.hasReadyAddress then checkServices rest else return .ok false

/-- Whether every service that the registrations refer to can answer. -/
def check (home : String) (enabled : List Registration) :
    Interaction reading (Except Failure Bool) :=
  checkServices (backingServices home enabled)

end Registrar.Readiness
