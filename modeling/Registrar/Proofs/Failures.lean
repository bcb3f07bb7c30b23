import Registrar.Failure.Basic
/-!
# The leaves of a failure

Failures are collected in layers, but what went wrong is told by the leaves: the failures that are no
aggregates themselves. The order in which independent steps were taken shows in the order of the
leaves and in nothing else.
-/

set_option autoImplicit false

namespace Registrar.Failure

mutual

/-- The failures that are collected in a failure, through all layers. -/
def leaves : Failure → List Failure
  | aggregate members => leavesOfAll members
  | failure => [failure]

def leavesOfAll : List Failure → List Failure
  | [] => []
  | failure :: rest => failure.leaves ++ leavesOfAll rest

end

@[simp]
theorem leavesOfAll_eq_flatMap (failures : List Failure) :
    leavesOfAll failures = failures.flatMap leaves := by
  induction failures with
  | nil => rfl
  | cons failure rest ih => rw [leavesOfAll, ih, List.flatMap_cons]

@[simp]
theorem leaves_aggregate (members : List Failure) :
    (aggregate members).leaves = members.flatMap leaves := by
  rw [leaves, leavesOfAll_eq_flatMap]

mutual

/-- A failure is worth a quick retry if one of its leaves is. -/
theorem any_leaves : (failure : Failure) → failure.leaves.any isRetriable = failure.isRetriable
  | aggregate members => by rw [leaves, isRetriable, any_leavesOfAll members]
  | cluster _ | encoding _ | manifest _ | io _ | config _ | notFound _ _ | unavailable _
  | shuttingDown _ => by simp [leaves]

theorem any_leavesOfAll : (failures : List Failure) →
    (leavesOfAll failures).any isRetriable = anyRetriable failures
  | [] => rfl
  | failure :: rest => by
      rw [leavesOfAll, anyRetriable, List.any_append, any_leaves failure, any_leavesOfAll rest]

end

/-! ## Failures that only say that something is gone -/

/-- There is nothing to delete, as the store says itself or as the cluster does. -/
inductive SaysGone : Failure → Prop where
  | notFound (kind name : String) : SaysGone (.notFound kind name)
  | refused {refusal : Refusal} : refusal.code = 404 → SaysGone (.cluster (.refused refusal))

theorem isNotFound_iff (failure : Failure) : failure.isNotFound = true ↔ failure.SaysGone := by
  constructor
  · intro absent
    cases failure with
    | notFound kind name => exact .notFound kind name
    | cluster cause =>
        cases cause with
        | refused refusal =>
            exact .refused (by simpa [isNotFound, ClusterFailure.refusalCode?] using absent)
        | _ => simp [isNotFound, ClusterFailure.refusalCode?] at absent
    | _ => cases absent
  · intro gone
    cases gone with
    | notFound kind name => rfl
    | refused code => simp [isNotFound, ClusterFailure.refusalCode?, code]

instance (failure : Failure) : Decidable failure.SaysGone :=
  decidable_of_iff _ failure.isNotFound_iff

/-! ## Failures in another order -/

/-- Both fail or none of them, and what went wrong is the same, in some order. -/
structure Shuffled (first last : Option Failure) : Prop where
  isSome : last.isSome = first.isSome
  leaves : (last.toList.flatMap leaves).Perm (first.toList.flatMap leaves)

theorem Shuffled.refl (failure : Option Failure) : Shuffled failure failure :=
  ⟨rfl, .refl _⟩

theorem Shuffled.none_or_some {first last : Option Failure} (shuffled : Shuffled first last) :
    first = none ∧ last = none ∨ ∃ failure other, first = some failure ∧ last = some other := by
  have same := shuffled.isSome
  cases first with
  | none =>
      exact .inl ⟨rfl, Option.isNone_iff_eq_none.mp (Option.isSome_eq_false_iff.mp same)⟩
  | some failure =>
      obtain ⟨other, rfl⟩ := Option.isSome_iff_exists.mp same
      exact .inr ⟨failure, other, rfl, rfl⟩

/-- Failures that come in another order are worth a quick retry or not as before. -/
theorem Shuffled.isRetriable {first last : Option Failure} (shuffled : Shuffled first last) :
    last.map isRetriable = first.map isRetriable := by
  obtain ⟨rfl, rfl⟩ | ⟨failure, other, rfl, rfl⟩ := shuffled.none_or_some
  · rfl
  · have leaves : other.leaves.Perm failure.leaves := by simpa using shuffled.leaves
    rw [Option.map_some, Option.map_some, ← any_leaves, ← any_leaves failure, leaves.any_eq]

/-- The first failure that there is comes in another order if the first candidate does. -/
theorem Shuffled.or {first last : Option Failure} (shuffled : Shuffled first last)
    (otherwise : Option Failure) : Shuffled (first.or otherwise) (last.or otherwise) := by
  obtain ⟨rfl, rfl⟩ | ⟨failure, other, rfl, rfl⟩ := shuffled.none_or_some
  · exact .refl _
  · exact shuffled

end Registrar.Failure
