/-!
# Entries

Values are kept under keys in a list, where the first entry of a key is the one that counts.
-/

set_option autoImplicit false

namespace Registrar

abbrev Entries (κ α : Type) :=
  List (κ × α)

namespace Entries

variable {κ α : Type} [DecidableEq κ]

def erase (entries : Entries κ α) (key : κ) : Entries κ α :=
  entries.filter fun entry => entry.1 ≠ key

/-- After erasing a key, it holds nothing and all others what they held. -/
theorem lookup_erase (entries : Entries κ α) (key other : κ) :
    (entries.erase key).lookup other = if other = key then none else entries.lookup other := by
  induction entries with
  | nil => simp [erase]
  | cons entry rest ih => grind [erase]

end Entries

end Registrar
