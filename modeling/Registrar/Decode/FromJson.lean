import Registrar.Decode.Format
import Registrar.Json.Writer
/-!
# Reading records from JSON

The members of an object are visited in their order, so the first one that does not fit is the one
reported; fields that are missing altogether are reported last, in order of declaration. A record
may also stand as a sequence of its fields.
-/

set_option autoImplicit false

namespace Registrar

namespace Json

def found : Json → Found
  | null => .null
  | bool value => .bool value
  | integer value => .integer value
  | real value => .real (numberNotation.write value)
  | string value => .string value
  | array _ => .sequence
  | object _ => .map

def toText : Json → Decoded String
  | string value => .ok value
  | other => .error (.wrongType other.found "a string")

def toBool : Json → Decoded Bool
  | bool value => .ok value
  | other => .error (.wrongType other.found "a boolean")

def toBounded (low high : Int) (title : String) : Json → Decoded Int
  | integer value =>
      if low ≤ value ∧ value ≤ high then .ok value
      else .error (.wrongValue (.integer value) title)
  | other => .error (.wrongType other.found title)

def toInt32 (value : Json) : Decoded Int32 :=
  (value.toBounded Int32.minValue.toInt Int32.maxValue.toInt "i32").map Int32.ofInt

def toInt64 (value : Json) : Decoded Int64 :=
  (value.toBounded Int64.minValue.toInt Int64.maxValue.toInt "i64").map Int64.ofInt

def toOption {α : Type} (read : Json → Decoded α) : Json → Decoded (Option α)
  | null => .ok none
  | other => (read other).map some

def toList {α : Type} (read : Json → Decoded α) : Json → Decoded (List α)
  | array items => items.mapM read
  | other => .error (.wrongType other.found "a sequence")

def toTexts : Json → Decoded (List (String × String))
  | object members => members.mapM fun (name, value) => value.toText.map (name, ·)
  | other => .error (.wrongType other.found "a map")

/-- Read the members of an object into a draft. A known name may not occur twice, and unknown
names are passed over. -/
def readMembersOf {δ : Type} (outline : Outline) (read : String → Json → δ → Decoded δ) :
    List String → δ → List (String × Json) → Decoded δ
  | _, draft, [] => .ok draft
  | seen, draft, (name, value) :: rest =>
      if outline.fields.contains name then
        if seen.contains name then .error (.duplicateField name)
        else do
          let draft ← read name value draft
          readMembersOf outline read (name :: seen) draft rest
      else readMembersOf outline read seen draft rest

/-- Read the items of a sequence into a draft, each as the field in its place. Fields left over
must be ones that may be left out. -/
def readItemsOf {δ : Type} (outline : Outline) (read : String → Json → δ → Decoded δ) (total : Nat) :
    Nat → List String → δ → List Json → Decoded δ
  | _, [], draft, [] => .ok draft
  | _, [], _, _ :: _ => .error (.surplusItems total)
  | index, name :: names, draft, [] =>
      if outline.defaulted.contains name then
        readItemsOf outline read total (index + 1) names draft []
      else .error (.wrongLength index outline.sequenceTitle)
  | index, name :: names, draft, item :: items => do
      let draft ← read name item draft
      readItemsOf outline read total (index + 1) names draft items

def toRecord {δ α : Type} (outline : Outline) (blank : δ) (read : String → Json → δ → Decoded δ)
    (finish : δ → Decoded α) : Json → Decoded α
  | object members => do finish (← readMembersOf outline read [] blank members)
  | array items => do finish (← readItemsOf outline read items.length 0 outline.fields blank items)
  | other => .error (.wrongType other.found outline.title)

/-- Read a record from an object alone. Members may repeat, in which case the last one counts. -/
def toLooseRecord {δ : Type} (title : String) (blank : δ) (read : String → Json → δ → Decoded δ) :
    Json → Decoded δ
  | object members => members.foldlM (fun draft (name, value) => read name value draft) blank
  | other => .error (.wrongType other.found title)

/-- Read the name of a variant: a text, or a map of one such name to null. -/
def toVariant {α : Type} (known : List (String × α)) (value : Json) : Decoded α :=
  let choose (name : String) : Decoded α :=
    match known.lookup name with
    | some variant => .ok variant
    | none => .error (.unknownVariant name (known.map Prod.fst))
  match value with
  | string name => choose name
  | object [(name, payload)] => do
      let variant ← choose name
      match payload with
      | null => .ok variant
      | other => .error (.wrongType other.found "unit")
  | object _ => .error .notSingleMember
  | other => .error (.notVariant other.found)

end Json

instance : Format Json Decoded where
  string := Json.toText
  bool := Json.toBool
  int32 := Json.toInt32
  optional := Json.toOption
  list := Json.toList
  record := Json.toRecord

end Registrar
