import Mathlib.Data.List.Sort
import Registrar.Proofs.Cycle.Resolution
import Registrar.Proofs.Gate
/-!
# What does not depend on the order

The source may list the registrations in another order from one cycle to the next. Which services are
read does not depend on it, nor do the versions that discovery is asked for and the message on what is
not served: all of them are put into an order of their own.
-/

set_option autoImplicit false

namespace Registrar

/-! ## Sorted lists -/

namespace Sorted

variable {α : Type} {compare : α → α → Ordering}

theorem pairwise_insert [Std.TransCmp compare] [Std.LawfulEqCmp compare] (value : α)
    {values : List α} (sorted : values.Pairwise fun left right => compare left right = .lt) :
    (insert compare value values).Pairwise fun left right => compare left right = .lt := by
  induction values with
  | nil => exact List.pairwise_singleton _ _
  | cons other rest ih =>
      obtain ⟨first, sortedRest⟩ := List.pairwise_cons.mp sorted
      unfold insert
      cases order : compare value other with
      | lt =>
          refine List.pairwise_cons.mpr ⟨?_, sorted⟩
          intro member inside
          rcases List.mem_cons.mp inside with rfl | inside
          · exact order
          · exact Std.TransCmp.lt_trans order (first member inside)
      | eq => exact sorted
      | gt =>
          refine List.pairwise_cons.mpr ⟨?_, ih sortedRest⟩
          intro member inside
          have known := (mem_insert value member rest
            fun left right => Std.LawfulEqCmp.eq_of_compare).mp inside
          rcases known with rfl | inside
          · exact Std.OrientedCmp.gt_iff_lt.mp order
          · exact first member inside

theorem pairwise_ofList [Std.TransCmp compare] [Std.LawfulEqCmp compare] (values : List α) :
    (ofList compare values).Pairwise fun left right => compare left right = .lt := by
  have kept : ∀ sorted : List α, (sorted.Pairwise fun left right => compare left right = .lt) →
      (values.foldl (fun sorted value => insert compare value sorted) sorted).Pairwise
        fun left right => compare left right = .lt := by
    induction values with
    | nil => exact fun _ sorted => sorted
    | cons value rest ih => exact fun _ sorted => ih _ (pairwise_insert value sorted)
  exact kept [] List.Pairwise.nil

/-- Lists made of the same values are equal, in whatever order the values came. -/
theorem ofList_congr [Std.TransCmp compare] [Std.LawfulEqCmp compare] {values others : List α}
    (same : ∀ value, value ∈ others ↔ value ∈ values) :
    ofList compare others = ofList compare values := by
  have irreflexive : Std.Irrefl fun left right : α => compare left right = .lt :=
    ⟨fun value less => by simp [Std.ReflCmp.compare_self] at less⟩
  have antisymmetric : Std.Antisymm fun left right : α => compare left right = .lt :=
    ⟨fun left right less more => by simp [Std.OrientedCmp.gt_iff_lt.mpr less] at more⟩
  have eq_of_compare : ∀ left right, compare left right = .eq → left = right :=
    fun left right => Std.LawfulEqCmp.eq_of_compare
  refine (pairwise_ofList others).eq_of_mem_iff (pairwise_ofList values) fun value => ?_
  rw [mem_ofList eq_of_compare, mem_ofList eq_of_compare]
  exact same value

end Sorted

namespace GroupVersion

instance : Std.TransCmp compare :=
  inferInstanceAs (Std.TransCmp (compareLex (compareOn group) (compareOn version)))

instance : Std.LawfulEqCmp compare where
  eq_of_compare {left right} same := by
    obtain ⟨group, version⟩ := Ordering.then_eq_eq.mp same
    cases left
    cases right
    simp_all

end GroupVersion

namespace Readiness

instance : Std.TransCmp ServiceKey.compare :=
  inferInstanceAs
    (Std.TransCmp (compareLex (compareOn ServiceKey.namespaceName) (compareOn ServiceKey.name)))

instance : Std.LawfulEqCmp ServiceKey.compare where
  eq_of_compare {left right} := ServiceKey.eq_of_compare left right

theorem backingServices_perm (home : String) {registrations others : List Registration}
    (order : others.Perm registrations) :
    backingServices home others = backingServices home registrations :=
  Sorted.ofList_congr fun _ => (order.filterMap _).mem_iff

end Readiness

/-! ## Messages and versions -/

namespace Cycle

theorem pairwise_mergeSort_texts (texts : List String) :
    (texts.mergeSort fun left right => decide (left ≤ right)).Pairwise
      fun left right => decide (left ≤ right) = true :=
  List.pairwise_mergeSort (fun _ _ _ => by simpa using fun less more => String.le_trans less more)
    (fun left right => by simpa using String.le_total left right) texts

theorem unavailable_perm {messages others : List String} (order : others.Perm messages) :
    unavailable others = unavailable messages := by
  have same : (others.mergeSort fun left right => decide (left ≤ right)) =
      messages.mergeSort fun left right => decide (left ≤ right) := by
    refine List.Perm.eq_of_pairwise ?_ (pairwise_mergeSort_texts others)
      (pairwise_mergeSort_texts messages)
      ((List.mergeSort_perm _ _).trans (order.trans (List.mergeSort_perm _ _).symm))
    intro left right _ _ below above
    exact String.le_antisymm (of_decide_eq_true below) (of_decide_eq_true above)
  unfold unavailable
  rw [same]

theorem verdict_perm {messages others : List String} (order : others.Perm messages) :
    verdict others = verdict messages := by
  cases messages with
  | nil => rw [order.eq_nil]
  | cons message rest =>
      cases others with
      | nil => cases order.symm.eq_nil
      | cons other others => exact congrArg Except.error (unavailable_perm order)

theorem groupVersions_perm {registrations others : List Registration}
    (order : others.Perm registrations) : groupVersions others = groupVersions registrations :=
  Sorted.ofList_congr fun _ => (order.map Registration.groupVersion).mem_iff

end Cycle

/-! ## Settled lists -/

/-- Where no name repeats and none was seen before, nothing is left out. -/
theorem Registration.firstOfNames_of_nodup {registrations : List Registration} {seen : List String}
    (unique : (registrations.map Registration.name).Nodup)
    (fresh : ∀ name ∈ seen, name ∉ registrations.map Registration.name) :
    firstOfNames seen registrations = registrations := by
  induction registrations generalizing seen with
  | nil => rfl
  | cons registration rest ih =>
      obtain ⟨unlike, uniqueRest⟩ := List.nodup_cons.mp unique
      have unseen : registration.name ∉ seen := fun member => fresh _ member (by simp)
      unfold firstOfNames
      rw [if_neg (by simpa using unseen), ih uniqueRest]
      intro name member
      rcases List.mem_cons.mp member with rfl | member
      · exact unlike
      · exact fun inside => fresh name member (List.mem_cons_of_mem _ inside)

namespace ManagedRegistrations

/-- The same registrations are listed; the enabled ones may come in another order, if their names
are distinct. -/
structure Reordered (lists other : ManagedRegistrations) : Prop where
  disabled : other.disabled = lists.disabled
  distinct : (lists.enabled.map Registration.name).Nodup
  enabled : other.enabled.Perm lists.enabled

variable {lists other : ManagedRegistrations}

theorem firstOfNames_eq_self {registrations : List Registration}
    (distinct : (registrations.map Registration.name).Nodup) :
    Registration.firstOfNames [] registrations = registrations :=
  Registration.firstOfNames_of_nodup distinct (by simp)

theorem enabled_resolve_perm (distinct : (lists.enabled.map Registration.name).Nodup)
    (order : other.enabled.Perm lists.enabled) :
    other.resolve.enabled.Perm lists.resolve.enabled := by
  unfold resolve
  dsimp only
  rw [firstOfNames_eq_self distinct,
    firstOfNames_eq_self ((order.map Registration.name).nodup_iff.mpr distinct)]
  exact order

theorem Reordered.enabled_resolve (reordered : Reordered lists other) :
    other.resolve.enabled.Perm lists.resolve.enabled :=
  enabled_resolve_perm reordered.distinct reordered.enabled

theorem Reordered.disabled_resolve (reordered : Reordered lists other) :
    other.resolve.disabled = lists.resolve.disabled := by
  have names : ∀ name, name ∈ other.resolve.enabled.map Registration.name ↔
      name ∈ lists.resolve.enabled.map Registration.name :=
    fun _ => (reordered.enabled_resolve.map Registration.name).mem_iff
  unfold resolve at names ⊢
  dsimp only at names ⊢
  rw [reordered.disabled]
  refine List.filter_congr fun registration _ => ?_
  simp only [List.contains_eq_mem, names]

/-- The same registrations are listed, each list in any order. The names within a list are distinct,
but a name may be in both. -/
structure Rearranged (lists other : ManagedRegistrations) : Prop where
  distinctEnabled : (lists.enabled.map Registration.name).Nodup
  distinctDisabled : (lists.disabled.map Registration.name).Nodup
  enabled : other.enabled.Perm lists.enabled
  disabled : other.disabled.Perm lists.disabled

theorem Rearranged.enabled_resolve (rearranged : Rearranged lists other) :
    other.resolve.enabled.Perm lists.resolve.enabled :=
  enabled_resolve_perm rearranged.distinctEnabled rearranged.enabled

theorem Rearranged.disabled_resolve (rearranged : Rearranged lists other) :
    other.resolve.disabled.Perm lists.resolve.disabled := by
  have names : ∀ name, name ∈ other.resolve.enabled.map Registration.name ↔
      name ∈ lists.resolve.enabled.map Registration.name :=
    fun _ => (rearranged.enabled_resolve.map Registration.name).mem_iff
  unfold resolve at names ⊢
  dsimp only at names ⊢
  simp only [List.contains_eq_mem, names]
  rw [firstOfNames_eq_self rearranged.distinctDisabled, firstOfNames_eq_self
    ((rearranged.disabled.map Registration.name).nodup_iff.mpr rearranged.distinctDisabled)]
  exact rearranged.disabled.filter _

end ManagedRegistrations

end Registrar
