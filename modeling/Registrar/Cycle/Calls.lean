import Registrar.Interaction
import Registrar.Manifest
import Registrar.Metrics.Basic
import Registrar.Resource.Operator
/-!
# The collaborators of a cycle

A cycle works through a fixed set of calls: it reads its instruction and its lists, looks at and
changes the registrations in the store, asks whether it may apply and whether what it applied is
served, and reports. Everything that a cycle can do or learn is one of these calls.
-/

set_option autoImplicit false

namespace Registrar.Cycle

structure Applied where
  object : Registration
  /-- Whether the apply made a difference. -/
  changed : Bool
deriving DecidableEq, Repr, Inhabited

inductive Call where
  | readMode
  | listManaged
  | cached (name : String)
  | delete (name : String)
  /-- Ask whether it is safe to apply the enabled registrations. -/
  | check (enabled : List Registration)
  | apply (desired : Registration)
  /-- Ask which versions are missing from discovery; there is one message for each. -/
  | probe (groupVersions : List GroupVersion)
  | writeConditions (conditions : List Condition)
  /-- Warn whoever looks after the operator. -/
  | warn (reason message : String)
  /-- Ask whether the process is shutting down. -/
  | isShuttingDown
  | now
  | observe (observation : Observation)

abbrev Call.Reply : Call → Type
  | readMode => Except Failure ManagementState
  | listManaged => Except Failure ManagedRegistrations
  | cached _ => Option Registration
  | delete _ => Except Failure Unit
  | check _ => Except Failure Bool
  | apply _ => Except Failure Applied
  | probe _ => List String
  | writeConditions _ => Except Failure Unit
  | warn _ _ => Unit
  | isShuttingDown => Bool
  | now => String
  | observe _ => Unit

abbrev calls : Signature where
  Question := Call
  Reply := Call.Reply

abbrev Program (α : Type) :=
  Interaction calls α

def call (question : Call) : Program question.Reply :=
  .ask question .done

end Registrar.Cycle
