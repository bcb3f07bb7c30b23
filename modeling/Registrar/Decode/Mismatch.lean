import Registrar.Text.Quoted
/-!
# Values that do not fit

A record can be read from a value that was built before, or straight from a text. The two routes
agree on what fits; on a few shapes they word the refusal differently, so a mismatch keeps its
cause and `Mismatch.message` takes the route.
-/

set_option autoImplicit false

namespace Registrar

/-- What stood in a place where something else was expected. -/
inductive Found where
  | null
  /-- A place left empty in a format that has such places. -/
  | unit
  | bool (value : Bool)
  | integer (value : Int)
  /-- An integer beyond the range of 64 bits. -/
  | wideInteger (value : Int)
  /-- A floating-point number, in the notation of the format it was found in. -/
  | real (text : String)
  | string (value : String)
  | sequence
  | map
deriving DecidableEq, Repr

def Found.describe : Found → String
  | null => "null"
  | unit => "unit value"
  | bool value => "boolean `" ++ toString value ++ "`"
  | integer value => "integer `" ++ toString value ++ "`"
  | wideInteger value =>
      "integer `" ++ toString value ++ "` as " ++ if value < 0 then "i128" else "u128"
  | real text => "floating point `" ++ text ++ "`"
  | string value => "string " ++ Text.quote value
  | sequence => "sequence"
  | map => "map"

/-- Whether a record is read from a finished value or while its text is being read. -/
inductive Route where
  | value
  | text
deriving DecidableEq, Repr

/-- Why a value does not fit the type it is read as. -/
inductive Mismatch where
  | wrongType (found : Found) (expected : String)
  | wrongValue (found : Found) (expected : String)
  | missingField (name : String)
  | duplicateField (name : String)
  | unknownVariant (name : String) (known : List String)
  | wrongLength (length : Nat) (expected : String)
  /-- A sequence with more items than the record has fields. -/
  | surplusItems (length : Nat)
  /-- A value that is no name of a variant and no map either. -/
  | notVariant (found : Found)
  /-- A map of a variant that does not have exactly one member. -/
  | notSingleMember
  | custom (message : String)
deriving DecidableEq, Repr

def alternatives : List String → String
  | [only] => "`" ++ only ++ "`"
  | [first, second] => "`" ++ first ++ "` or `" ++ second ++ "`"
  | names => "one of " ++ ", ".intercalate (names.map fun name => "`" ++ name ++ "`")

def Mismatch.message (route : Route) : Mismatch → String
  | wrongType found expected => "invalid type: " ++ found.describe ++ ", expected " ++ expected
  | wrongValue found expected => "invalid value: " ++ found.describe ++ ", expected " ++ expected
  | missingField name => "missing field `" ++ name ++ "`"
  | duplicateField name => "duplicate field `" ++ name ++ "`"
  | unknownVariant name known =>
      "unknown variant `" ++ name ++ "`, expected " ++ alternatives known
  | wrongLength length expected =>
      "invalid length " ++ toString length ++ ", expected " ++ expected
  | surplusItems length =>
      match route with
      | .value => "invalid length " ++ toString length ++ ", expected fewer elements in array"
      | .text => "trailing characters"
  | notVariant found =>
      match route with
      | .value => "invalid type: " ++ found.describe ++ ", expected string or map"
      | .text => "expected value"
  | notSingleMember =>
      match route with
      | .value => "invalid value: map, expected map with a single key"
      | .text => "expected value"
  | custom message => message

abbrev Decoded := Except Mismatch

def required {α : Type} (name : String) (field : Option α) : Decoded α :=
  match field with
  | some value => .ok value
  | none => .error (.missingField name)

end Registrar
