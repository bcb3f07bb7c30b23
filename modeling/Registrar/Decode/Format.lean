import Registrar.Decode.Mismatch
/-!
# Formats that records are read from

A record type says once which fields it has and how each is read. A format says how texts, flags,
numbers and whole records are found in its own values, so that one description of a record serves
every format.
-/

set_option autoImplicit false

namespace Registrar

/-- The outline of a record: its title in messages, its fields in order of declaration, and those
of them that a sequence may leave out at its end. -/
structure Outline where
  title : String
  fields : List String
  defaulted : List String
deriving DecidableEq, Repr

/-- The wording for a sequence that should hold all fields of the record. -/
def Outline.sequenceTitle (outline : Outline) : String :=
  let count := outline.fields.length
  outline.title ++ " with " ++ toString count ++ " element" ++ if count = 1 then "" else "s"

/-- Reading values of type `ν` in the monad `m`. A record is read field by field into a draft,
in the order of the input, and the draft is finished when all of the input has been read. -/
class Format (ν : Type) (m : Type → Type) where
  string : ν → m String
  bool : ν → m Bool
  int32 : ν → m Int32
  optional {α : Type} : (ν → m α) → ν → m (Option α)
  list {α : Type} : (ν → m α) → ν → m (List α)
  record {δ α : Type} :
    Outline → δ → (String → ν → δ → m δ) → (δ → Decoded α) → ν → m α

end Registrar
