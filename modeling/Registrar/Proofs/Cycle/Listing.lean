import Registrar.Proofs.Cycle.Course
import Registrar.Proofs.Cycle.Order
/-!
# The lists of a cycle, place by place

A source may list a registration several times and in both of its lists, some without a name of
their own. Which entries a cycle goes on with can be told from their places alone: an enabled one if
no entry before it has its name, a disabled one if moreover no enabled entry has it. Nothing that
the source names is lost by that, and lists that were settled once stay as they are.
-/

set_option autoImplicit false

namespace Registrar

namespace Registration

/-- No entry before this place has the name of the entry there. -/
def FirstAt (registrations : List Registration) (place : Registration × Nat) : Prop :=
  place.1.name ∉ (registrations.take place.2).map name

instance (registrations : List Registration) (place : Registration × Nat) :
    Decidable (FirstAt registrations place) :=
  inferInstanceAs (Decidable (_ ∉ _))

theorem firstAt_length_iff (before rest : List Registration) (registration : Registration) :
    FirstAt (before ++ registration :: rest) (registration, before.length) ↔
      registration.name ∉ before.map name := by
  simp [FirstAt]

theorem firstOfNames_eq_filter {seen : List String} {before : List Registration}
    (same : ∀ name, name ∈ seen ↔ name ∈ before.map Registration.name)
    (registrations : List Registration) :
    firstOfNames seen registrations =
      ((registrations.zipIdx before.length).filter
        fun place => FirstAt (before ++ registrations) place).map Prod.fst := by
  induction registrations generalizing seen before with
  | nil => rfl
  | cons registration rest ih =>
      -- what was seen is told by the entries passed so far, repeated or not
      have later : ∀ name, name ∈ registration.name :: seen ↔
          name ∈ (before ++ [registration]).map Registration.name := by
        simp [same, or_comm]
      have repeated : ∀ name, registration.name ∈ seen → (name ∈ seen ↔
          name ∈ (before ++ [registration]).map Registration.name) := by
        intro name present
        rw [← later, List.mem_cons]
        exact ⟨.inr, fun either => either.elim (· ▸ present) id⟩
      have spread : before ++ [registration] ++ rest = before ++ registration :: rest :=
        (List.append_cons before registration rest).symm
      unfold firstOfNames
      rw [List.zipIdx_cons, List.filter_cons]
      by_cases present : registration.name ∈ seen
      · have ih := ih fun name => repeated name present
        rw [spread, List.length_append, List.length_singleton] at ih
        rw [if_pos (by simpa using present),
          if_neg (by simpa [firstAt_length_iff, ← same] using present), ih]
      · have ih := ih later
        rw [spread, List.length_append, List.length_singleton] at ih
        rw [if_neg (by simpa using present),
          if_pos (by simpa [firstAt_length_iff, ← same] using present), ih]
        rfl

end Registration

open Registration (FirstAt)

namespace ManagedRegistrations

theorem disabled_resolve_of_disjoint {lists : ManagedRegistrations}
    (distinct : (lists.disabled.map Registration.name).Nodup)
    (disjoint : ∀ name ∈ lists.disabled.map Registration.name,
      name ∉ lists.enabled.map Registration.name) : lists.resolve.disabled = lists.disabled := by
  unfold resolve
  dsimp only
  rw [firstOfNames_eq_self distinct, List.filter_eq_self]
  intro registration member
  have other := disjoint _ (List.mem_map_of_mem member)
  rw [← mem_names_enabled_resolve] at other
  simpa [resolve] using other

theorem resolve_resolve (lists : ManagedRegistrations) : lists.resolve.resolve = lists.resolve := by
  have enabled : lists.resolve.resolve.enabled = lists.resolve.enabled :=
    firstOfNames_eq_self (nodup_names_enabled_resolve lists)
  have disabled : lists.resolve.resolve.disabled = lists.resolve.disabled :=
    disabled_resolve_of_disjoint (nodup_names_disabled_resolve lists)
      (disjoint_names_resolve lists)
  exact congrArg₂ ManagedRegistrations.mk enabled disabled

theorem enabled_resolve_eq_filter (lists : ManagedRegistrations) :
    lists.resolve.enabled =
      (lists.enabled.zipIdx.filter fun place => FirstAt lists.enabled place).map Prod.fst :=
  @Registration.firstOfNames_eq_filter [] [] (by simp) lists.enabled

theorem disabled_resolve_eq_filter (lists : ManagedRegistrations) :
    lists.resolve.disabled =
      (lists.disabled.zipIdx.filter fun place => FirstAt lists.disabled place ∧
        place.1.name ∉ lists.enabled.map Registration.name).map Prod.fst := by
  have kept : ∀ name, (lists.resolve.enabled.map Registration.name).contains name =
      (lists.enabled.map Registration.name).contains name := by
    intro name
    simp only [List.contains_eq_mem, mem_names_enabled_resolve]
  calc lists.resolve.disabled
      = (Registration.firstOfNames [] lists.disabled).filter fun registration =>
          !(lists.resolve.enabled.map Registration.name).contains registration.name := rfl
    _ = ((lists.disabled.zipIdx.filter fun place => FirstAt lists.disabled place).map
          Prod.fst).filter fun registration =>
            !(lists.enabled.map Registration.name).contains registration.name := by
        simp only [kept]
        rw [@Registration.firstOfNames_eq_filter [] [] (by simp) lists.disabled]
        rfl
    _ = _ := by
        rw [List.filter_map, List.filter_filter]
        refine congrArg (List.map Prod.fst) (List.filter_congr fun place _ => ?_)
        simp only [Function.comp_apply, List.contains_eq_mem, Bool.decide_and, decide_not,
          Bool.and_comm]

end ManagedRegistrations

namespace Cycle

/-- What a cycle goes on with once its source has listed `given`. -/
structure Settled (given settled : ManagedRegistrations) : Prop where
  enabled : settled.enabled =
    (given.enabled.zipIdx.filter fun place => FirstAt given.enabled place).map Prod.fst
  disabled : settled.disabled =
    (given.disabled.zipIdx.filter fun place => FirstAt given.disabled place ∧
      place.1.name ∉ given.enabled.map Registration.name).map Prod.fst
  distinctEnabled : (settled.enabled.map Registration.name).Nodup
  distinctDisabled : (settled.disabled.map Registration.name).Nodup
  disjoint : ∀ name ∈ settled.disabled.map Registration.name,
    name ∉ settled.enabled.map Registration.name
  /-- Every name that was listed still is, and no other one. -/
  complete : ∀ name, name ∈ settled.names ↔ name ∈ given.names
  /-- A source that lists what was settled has it taken as it is. -/
  stable : ∀ result, listManaged.Yields [⟨.listManaged, .ok settled⟩] result ↔ result = .ok settled

theorem settled_resolve (given : ManagedRegistrations) : Settled given given.resolve :=
  { enabled := given.enabled_resolve_eq_filter
    disabled := given.disabled_resolve_eq_filter
    distinctEnabled := given.nodup_names_enabled_resolve
    distinctDisabled := given.nodup_names_disabled_resolve
    disjoint := given.disjoint_names_resolve
    complete := given.mem_names_resolve
    stable := fun result => by
      rw [listManaged_yields_iff]
      constructor
      · rintro ⟨reply, same, rfl⟩
        cases same
        exact congrArg Except.ok given.resolve_resolve
      · rintro rfl
        exact ⟨_, rfl, congrArg Except.ok given.resolve_resolve.symm⟩ }

/-- Whatever a source lists, a cycle goes on with the first entry of each name, and with a disabled
one only where its name is not enabled as well. -/
theorem listManaged_settles (given : ManagedRegistrations) :
    ∃ settled, Settled given settled ∧
      ∀ transcript result, listManaged.Yields (⟨.listManaged, .ok given⟩ :: transcript) result ↔
        transcript = [] ∧ result = .ok settled := by
  refine ⟨given.resolve, settled_resolve given, fun transcript result => ?_⟩
  rw [listManaged_yields_iff]
  constructor
  · rintro ⟨reply, same, rfl⟩
    cases same
    exact ⟨rfl, rfl⟩
  · rintro ⟨rfl, rfl⟩
    exact ⟨.ok given, rfl, rfl⟩

/-- An entry that has only a stem counts under it, and one that has neither under the empty name. -/
example :
    let stem := { sampleRegistration "v1" with
      metadata := { generateName := some "v1.metrics.example.io" } }
    let bare := { sampleRegistration "v1" with metadata := {} }
    ManagedRegistrations.resolve
        ⟨[stem, bare, sampleRegistration "v1"], [bare, sampleRegistration "v2"]⟩ =
      ⟨[stem, bare], [sampleRegistration "v2"]⟩ := by
  decide

end Cycle

end Registrar
