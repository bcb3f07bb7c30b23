import Registrar.Api.Listing
import Registrar.Cluster.Cycle
/-!
# Starting the operator

Before anything else the operator makes sure that its own kind of resource is known to the server,
and that the resource that instructs it exists.
-/

set_option autoImplicit false

namespace Registrar.Cluster

open Api

/-- The failure of a server that does not know the kind of the operator resource. -/
def unknownKind : Failure :=
  .config "APIServiceOperator CRD not installed"

/-- List the operator resources, then make sure that the one that instructs the operator exists.
Whatever keeps the list from being read counts as the kind being unknown. -/
def startup (identity : Identity) : Talk (Except Failure Unit) := do
  let request := Request.list Collection.operators ["limit=1"]
  match ← perform request (Listing.read Operator.ofJson) with
  | .error _ => return .error unknownKind
  | .ok _ => ensureOperator identity.operatorName

end Registrar.Cluster
