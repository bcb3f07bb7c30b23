import Registrar.Failure.Basic
import Registrar.Retry
/-!
# What follows a cycle

A successful cycle is repeated after the resync period. A failed one is repeated after a delay that
grows with the streak of failures: it starts at a second and stays within a minute if the cluster is
to blame, and starts at fifteen seconds and stays within five minutes otherwise. A failure during a
shutdown is not repeated by itself and does not count.
-/

set_option autoImplicit false

namespace Registrar.Controller

/-- When the next cycle is due, if nothing else asks for one. -/
inductive Action where
  | requeue (seconds : UInt64)
  | awaitChange
deriving DecidableEq, Repr

/-- The delay after a failure that followed `streak` others. -/
def retryDelay (failure : Failure) (streak : UInt32) : UInt64 :=
  if failure.isRetriable then Retry.delay streak (some 1) (some 60)
  else Retry.delay streak (some 15) (some 300)

def afterCycle (resync : UInt64) (streak : UInt32) : Except Failure Unit → Action × UInt32
  | .ok () => (.requeue resync, 0)
  | .error (.shuttingDown _) => (.awaitChange, streak)
  | .error failure => (.requeue (retryDelay failure streak), streak + 1)

end Registrar.Controller
