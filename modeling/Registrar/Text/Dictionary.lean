/-!
# Dictionaries of texts

A dictionary keeps its entries sorted by key, with one entry for each key. Labels and annotations
are dictionaries.
-/

set_option autoImplicit false

namespace Registrar

abbrev Dictionary :=
  List (String × String)

namespace Dictionary

def get? (dictionary : Dictionary) (key : String) : Option String :=
  dictionary.lookup key

def insert (key value : String) : Dictionary → Dictionary
  | [] => [(key, value)]
  | (other, held) :: rest =>
      if key = other then (key, value) :: rest
      else if key < other then (key, value) :: (other, held) :: rest
      else (other, held) :: insert key value rest

/-- After storing a value, its key holds it and all other keys what they held. -/
theorem get?_insert (dictionary : Dictionary) (key value other : String) :
    (dictionary.insert key value).get? other =
      if other = key then some value else dictionary.get? other := by
  fun_induction Dictionary.insert key value dictionary <;> grind [get?]

/-- The dictionary with the given entries; the last of equal keys wins. -/
def ofList (entries : List (String × String)) : Dictionary :=
  entries.foldl (fun dictionary (key, value) => dictionary.insert key value) []

end Dictionary

end Registrar
