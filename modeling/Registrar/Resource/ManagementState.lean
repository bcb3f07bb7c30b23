/-!
# The management state

The instruction that a person gives to the operator. A state that this version does not know is
kept as it was written, so that reading and writing an object loses nothing; the empty state means
the ordinary one.
-/

set_option autoImplicit false

namespace Registrar

/-- Whether and how the operator acts on its registrations. -/
inductive ManagementState where
  | managed
  | unmanaged
  /-- Remove every owned registration. -/
  | removed
  /-- A state without a meaning to this version. -/
  | unknown (name : String)
deriving DecidableEq, Repr, Inhabited

namespace ManagementState

def ofName (name : String) : ManagementState :=
  if name = "Managed" ∨ name = "" then managed
  else if name = "Unmanaged" then unmanaged
  else if name = "Removed" then removed
  else unknown name

def name : ManagementState → String
  | managed => "Managed"
  | unmanaged => "Unmanaged"
  | removed => "Removed"
  | unknown name => name

def label : ManagementState → String
  | managed => "Managed"
  | unmanaged => "Unmanaged"
  | removed => "Removed"
  | unknown _ => "Unknown"

end ManagementState

end Registrar
