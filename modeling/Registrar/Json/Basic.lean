import Registrar.Decimal.Notation
/-!
# JSON values

A value keeps integers of 64 bits apart from floating-point numbers, and the members of an object
in the order in which they were written. `normalize` forgets that order: it sorts members by name
and keeps the last of those that share one.
-/

set_option autoImplicit false

namespace Registrar

open Decimal (Binary64)

inductive Json where
  | null
  | bool (value : Bool)
  | integer (value : Int)
  | real (value : Binary64)
  | string (value : String)
  | array (items : List Json)
  | object (members : List (String × Json))
deriving Repr, Inhabited

namespace Json

def get? (value : Json) (name : String) : Option Json :=
  match value with
  | object members => members.lookup name
  | _ => none

/-- Put a member into a list sorted by name, in place of one with the same name. -/
def insertMember (name : String) (value : Json) : List (String × Json) → List (String × Json)
  | [] => [(name, value)]
  | (other, held) :: rest =>
      if name = other then (name, value) :: rest
      else if name < other then (name, value) :: (other, held) :: rest
      else (other, held) :: insertMember name value rest

/-- Sort members by name; the last of equal names wins. -/
def sortMembers (members : List (String × Json)) : List (String × Json) :=
  members.foldl (fun sorted (name, value) => insertMember name value sorted) []

mutual

/-- Sort the members of every object by name, keeping the last of equal names. -/
def normalize : Json → Json
  | array items => array (normalizeItems items)
  | object members => object (sortMembers (normalizeMembers members))
  | value => value

def normalizeItems : List Json → List Json
  | [] => []
  | item :: rest => item.normalize :: normalizeItems rest

def normalizeMembers : List (String × Json) → List (String × Json)
  | [] => []
  | (name, value) :: rest => (name, value.normalize) :: normalizeMembers rest

end

mutual

/-- Equality of two values, decided structurally; objects must agree in the order of members. -/
def equal : Json → Json → Bool
  | null, null => true
  | bool left, bool right => left = right
  | integer left, integer right => left = right
  | real left, real right => left = right
  | string left, string right => left = right
  | array left, array right => equalItems left right
  | object left, object right => equalMembers left right
  | _, _ => false

def equalItems : List Json → List Json → Bool
  | [], [] => true
  | left :: lefts, right :: rights => left.equal right && equalItems lefts rights
  | _, _ => false

def equalMembers : List (String × Json) → List (String × Json) → Bool
  | [], [] => true
  | (leftName, left) :: lefts, (rightName, right) :: rights =>
      leftName = rightName && left.equal right && equalMembers lefts rights
  | _, _ => false

end

mutual

/-- The structural test decides equality. -/
theorem equal_iff : (left right : Json) → (left.equal right = true ↔ left = right)
  | null, right => by cases right <;> simp [equal]
  | bool _, right => by cases right <;> simp [equal]
  | integer _, right => by cases right <;> simp [equal]
  | real _, right => by cases right <;> simp [equal]
  | string _, right => by cases right <;> simp [equal]
  | array lefts, right => by cases right <;> simp [equal, equalItems_iff lefts]
  | object lefts, right => by cases right <;> simp [equal, equalMembers_iff lefts]

/-- The structural test decides equality of lists of values. -/
theorem equalItems_iff : (lefts rights : List Json) → (equalItems lefts rights = true ↔ lefts = rights)
  | [], rights => by cases rights <;> simp [equalItems]
  | left :: lefts, rights => by
      cases rights <;> simp [equalItems, equal_iff left, equalItems_iff lefts]

/-- The structural test decides equality of lists of members. -/
theorem equalMembers_iff :
    (lefts rights : List (String × Json)) → (equalMembers lefts rights = true ↔ lefts = rights)
  | [], rights => by cases rights <;> simp [equalMembers]
  | (name, left) :: lefts, rights => by
      cases rights <;>
        simp [equalMembers, equal_iff left, equalMembers_iff lefts, Prod.ext_iff]

end

instance : DecidableEq Json := fun left right =>
  decidable_of_iff (left.equal right = true) (equal_iff left right)

/-- An optional member: present exactly when there is a value. -/
def member? (name : String) (value : Option Json) : List (String × Json) :=
  match value with
  | some value => [(name, value)]
  | none => []

def strings (values : List String) : Json :=
  array (values.map string)

def string? (value : Option String) : Json :=
  value.elim null string

end Json

end Registrar
