import Registrar.Decode.FromJson
/-!
# The status of a condition
-/

set_option autoImplicit false

namespace Registrar

inductive ConditionStatus where
  | true
  | false
  | unknown
deriving DecidableEq, Repr

namespace ConditionStatus

instance : Inhabited ConditionStatus := ⟨unknown⟩

def name : ConditionStatus → String
  | true => "True"
  | false => "False"
  | unknown => "Unknown"

def isTrue : ConditionStatus → Bool
  | true => Bool.true
  | _ => Bool.false

def variants : List (String × ConditionStatus) :=
  [("True", true), ("False", false), ("Unknown", unknown)]

def ofJson : Json → Decoded ConditionStatus :=
  Json.toVariant variants

def toJson (status : ConditionStatus) : Json :=
  .string status.name

end ConditionStatus

end Registrar
