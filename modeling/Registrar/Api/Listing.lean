import Registrar.Decode.FromJson
import Registrar.Resource.Metadata
/-!
# Listings

The answer to listing a collection: its objects, and the version of the collection at which changes
can be followed from there.
-/

set_option autoImplicit false

namespace Registrar.Api

structure Listing (α : Type) where
  items : List α
  version : Option String
deriving DecidableEq, Repr, Inhabited

namespace Listing

variable {α : Type}

def outline : Outline where
  title := "struct ObjectList"
  fields := ["metadata", "items"]
  defaulted := ["metadata"]

structure Draft (α : Type) where
  version : Option String := none
  items : Option (List α) := none

def readVersion : Json → Decoded (Option String) :=
  Json.toLooseRecord "ListMeta" none fun name value draft =>
    match name with
    | "resourceVersion" => Json.toOption Json.toText value
    | "continue" | "selfLink" => (Json.toOption Json.toText value).map fun _ => draft
    | _ => .ok draft

def readField (readItem : Json → Decoded α) (name : String) (value : Json) (draft : Draft α) :
    Decoded (Draft α) :=
  match name with
  | "metadata" => return { draft with version := ← readVersion value }
  | "items" =>
      return { draft with items := some ((← Json.toOption (Json.toList readItem) value).getD []) }
  | _ => .ok draft

/-- Read a listing. Its items may be null, but not absent. -/
def read (readItem : Json → Decoded α) : Json → Decoded (Listing α) :=
  Json.toRecord outline {} (readField readItem) fun draft => do
    return ⟨← required "items" draft.items, draft.version⟩

end Listing

end Registrar.Api
