import Registrar.Cycle.Calls
import Registrar.Entries
/-!
# A store of registrations

A store keeps registrations by name, one for each name. It can be told to refuse single names, to
keep an object that is deleted until its finalizers are done, and which conditions it reports on an
object. A request that is refused changes nothing.
-/

set_option autoImplicit false

namespace Registrar.World

open Registrar.Cycle (Applied)

abbrev Objects :=
  Entries String Registration

namespace Objects

def insert (name : String) (object : Registration) : Objects → Objects
  | [] => [(name, object)]
  | (other, held) :: rest =>
      if name = other then (name, object) :: rest
      else if name < other then (name, object) :: (other, held) :: rest
      else (other, held) :: insert name object rest

def ofList (registrations : List Registration) : Objects :=
  registrations.foldl (fun objects object => objects.insert object.name object) []

/-- After storing under a name, that name holds the new registration and all others what they held. -/
theorem lookup_insert (objects : Objects) (name other : String) (object : Registration) :
    (objects.insert name object).lookup other =
      if other = name then some object else objects.lookup other := by
  fun_induction Objects.insert name object objects <;> grind

end Objects

structure Store where
  objects : Objects := []
  deleteFailures : List (String × Failure) := []
  applyFailures : List (String × Failure) := []
  /-- The conditions reported on an object that is applied. -/
  availability : List (String × List ServedCondition) := []
  /-- The names whose objects are only marked when they are deleted. -/
  finalizers : List String := []
  renames : List (String × String) := []
  /-- The mark put on an object that is being deleted. -/
  deletionTime : Instant := ⟨0, 0⟩
deriving Inhabited

namespace Store

def get? (store : Store) (name : String) : Option Registration :=
  store.objects.lookup name

def marked (store : Store) (object : Registration) : Registration :=
  { object with metadata := { object.metadata with deletionTimestamp := some store.deletionTime } }

def delete (store : Store) (name : String) : Except Failure Unit × Store :=
  match store.deleteFailures.lookup name with
  | some failure => (.error failure, store)
  | none =>
      if store.finalizers.contains name then
        match store.get? name with
        | some object =>
            (.ok (), { store with objects := store.objects.insert name (store.marked object) })
        | none => (.ok (), store)
      else (.ok (), { store with objects := store.objects.erase name })

/-- The registration that an apply leaves in the store: as desired, with a report and a name of the
store's own. -/
def stored (store : Store) (desired : Registration) : Registration :=
  let name := desired.name
  { desired with
    metadata := { desired.metadata with
      name := (store.renames.lookup name).elim desired.metadata.name some }
    status := (store.availability.lookup name).map fun conditions => ⟨conditions⟩ }

/-- Create or update the registration under the desired name. It has changed if there was none or
its specification differs. -/
def apply (store : Store) (desired : Registration) : Except Failure Applied × Store :=
  let name := desired.name
  match store.applyFailures.lookup name with
  | some failure => (.error failure, store)
  | none =>
      let object := store.stored desired
      let changed := (store.get? name).all fun held => held.spec ≠ object.spec
      (.ok ⟨object, changed⟩, { store with objects := store.objects.insert name object })

end Store

end Registrar.World
