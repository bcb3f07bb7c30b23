import Registrar.Cycle.Calls
/-!
# The lists of a cycle

The source may name a registration several times and in both of its lists. Of equal names the first
entry counts, and a name among the enabled ones is not disabled.
-/

set_option autoImplicit false

namespace Registrar

/-- The first registration of each name that is not among the names already seen. -/
def Registration.firstOfNames (seen : List String) : List Registration → List Registration
  | [] => []
  | registration :: rest =>
      if seen.contains registration.name then firstOfNames seen rest
      else registration :: firstOfNames (registration.name :: seen) rest

/-- Settle names that occur several times: the first entry counts, and enabled wins. -/
def ManagedRegistrations.resolve (lists : ManagedRegistrations) : ManagedRegistrations :=
  let enabled := Registration.firstOfNames [] lists.enabled
  { enabled := enabled
    disabled := (Registration.firstOfNames [] lists.disabled).filter fun registration =>
      !(enabled.map Registration.name).contains registration.name }

namespace Cycle

def listManaged : Program (Except Failure ManagedRegistrations) := do
  let lists ← call .listManaged
  return lists.map ManagedRegistrations.resolve

end Cycle

end Registrar
