import Registrar.Entries
import Registrar.Failure.Basic
import Registrar.Resource.Operator
import Registrar.Resource.Registration
/-!
# Caches

A watch keeps a copy of the objects of one kind on the server. A listing is collected aside and
replaces the copy when it is complete; changes after that act at once. Nobody sees the copy as ready
before the first listing is complete, and nothing changes once the watch is gone.
-/

set_option autoImplicit false

namespace Registrar

/-- How an object is told apart from others of its kind. -/
structure ObjectKey where
  name : String
  namespaceName : Option String := none
deriving DecidableEq, Repr, Inhabited

def Metadata.key (metadata : Metadata) : ObjectKey :=
  ⟨metadata.displayName, metadata.namespaceName⟩

class HasMetadata (α : Type) where
  metadataOf : α → Metadata

instance : HasMetadata Registration :=
  ⟨Registration.metadata⟩

instance : HasMetadata Operator :=
  ⟨Operator.metadata⟩

instance : HasMetadata Metadata :=
  ⟨id⟩

def keyOf {α : Type} [HasMetadata α] (object : α) : ObjectKey :=
  (HasMetadata.metadataOf object).key

inductive CacheEvent (α : Type) where
  | listStarted
  | listed (object : α)
  | listEnded
  | applied (object : α)
  | deleted (object : α)
deriving DecidableEq, Repr

abbrev CacheContent (α : Type) :=
  Entries ObjectKey α

namespace CacheContent

variable {α : Type}

def insert [HasMetadata α] (content : CacheContent α) (object : α) : CacheContent α :=
  content.erase (keyOf object) ++ [(keyOf object, object)]

/-- After inserting an object, its key holds it and all others what they held. -/
theorem lookup_insert [HasMetadata α] (content : CacheContent α) (object : α) (key : ObjectKey) :
    (content.insert object).lookup key =
      if key = keyOf object then some object else content.lookup key := by
  rw [insert, List.lookup_append, Entries.lookup_erase]
  grind

end CacheContent

/-- A cache: what is visible, what has been listed so far, and how far its watch has come. -/
structure Cache (α : Type) where
  visible : CacheContent α := []
  pending : CacheContent α := []
  ready : Bool := false
  writerDropped : Bool := false
deriving DecidableEq, Repr

namespace Cache

variable {α : Type} [HasMetadata α]

def ofList (objects : List α) : Cache α where
  visible := objects.foldl CacheContent.insert []
  ready := true

def handle (cache : Cache α) (event : CacheEvent α) : Cache α :=
  if cache.writerDropped then cache
  else
    match event with
    | .listStarted => { cache with pending := [] }
    | .listed object => { cache with pending := cache.pending.insert object }
    | .listEnded => { cache with visible := cache.pending, pending := [], ready := true }
    | .applied object => { cache with visible := cache.visible.insert object }
    | .deleted object => { cache with visible := cache.visible.erase (keyOf object) }

omit [HasMetadata α]

def dropWriter (cache : Cache α) : Cache α :=
  { cache with writerDropped := true }

def get? (cache : Cache α) (name : String) : Option α :=
  cache.visible.lookup ⟨name, none⟩

def contains (cache : Cache α) (key : ObjectKey) : Bool :=
  (cache.visible.lookup key).isSome

/-- The outcome of waiting for the first listing, or none as long as it is open. -/
def syncOutcome (cache : Cache α) : Option (Except Failure Unit) :=
  if cache.ready then some (.ok ())
  else if cache.writerDropped then
    some (.error (.config
      "APIService cache never synced: writer was dropped before store became ready"))
  else none

end Cache

end Registrar
