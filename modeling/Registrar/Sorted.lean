/-!
# Sorted lists without repetition

A list is kept strictly increasing under a comparison, so each value occurs in it once, and two
lists made of the same values are equal whatever the order in which the values came.
-/

set_option autoImplicit false

namespace Registrar.Sorted

variable {α : Type}

def insert (compare : α → α → Ordering) (value : α) : List α → List α
  | [] => [value]
  | other :: rest =>
      match compare value other with
      | .lt => value :: other :: rest
      | .eq => other :: rest
      | .gt => other :: insert compare value rest

/-- A value that is put in is there afterwards, and nothing else comes or goes. -/
theorem mem_insert {compare : α → α → Ordering} (value other : α) (values : List α)
    (eq_of_compare : ∀ left right, compare left right = .eq → left = right) :
    other ∈ insert compare value values ↔ other = value ∨ other ∈ values := by
  fun_induction insert compare value values <;> grind

def ofList (compare : α → α → Ordering) (values : List α) : List α :=
  values.foldl (fun sorted value => insert compare value sorted) []

end Registrar.Sorted
