import Registrar.Cluster.Objects
import Registrar.Cycle.Basic
/-!
# The operator in a cluster

A cycle of the operator in a cluster: each call of the cycle is carried out by exchanges with the
API server, by the cache or by the manifest file.
-/

set_option autoImplicit false

namespace Registrar.Cluster

/-- Which resource instructs the operator, and where its services are. -/
structure Identity where
  operatorName : String
  /-- The namespace of services whose references leave it empty, and of events. -/
  home : String
deriving DecidableEq, Repr, Inhabited

def carryOut (identity : Identity) : (call : Cycle.Call) → Talk call.Reply
  | .readMode => readMode identity.operatorName
  | .listManaged => do return (← ask .manifest).managed
  | .cached name => ask (.cached name)
  | .delete name => deleteRegistration name
  | .check enabled => (Readiness.check identity.home enabled).translate readEndpoints
  | .apply desired => applyRegistration desired
  | .probe groupVersions => probe groupVersions
  | .writeConditions conditions => writeConditions identity.operatorName conditions
  | .warn reason message => warn identity.operatorName identity.home reason message
  | .isShuttingDown => ask .isShuttingDown
  | .now => ask .now
  | .observe observation => ask (.observe observation)

def cycle (identity : Identity) : Talk (Except Failure Unit) :=
  (Cycle.sync true).translate (carryOut identity)

end Registrar.Cluster
