import Registrar.Cycle.Lists
/-!
# Settled lists

What is left of the lists of the source once their names are settled: every name is held by the
first entry that had it, no name is held twice, and none is lost.
-/

set_option autoImplicit false

namespace Registrar

/-- The first registration of a name. -/
def Registration.first? (registrations : List Registration) (name : String) : Option Registration :=
  registrations.find? fun registration => registration.name = name

/-- The names that a source lists, in either list. -/
def ManagedRegistrations.names (lists : ManagedRegistrations) : List String :=
  (lists.enabled ++ lists.disabled).map Registration.name

namespace Registration

@[simp]
theorem name_withDefaults (registration : Registration) :
    registration.withDefaults.name = registration.name :=
  rfl

theorem first?_cons (registration : Registration) (rest : List Registration) (name : String) :
    first? (registration :: rest) name =
      if registration.name = name then some registration else first? rest name := by
  by_cases same : registration.name = name <;> simp [first?, same]

theorem name_of_first? {registrations : List Registration} {name : String}
    {registration : Registration} (found : first? registrations name = some registration) :
    registration.name = name := by
  simpa [first?] using List.find?_some found

theorem first?_isSome_iff (registrations : List Registration) (name : String) :
    (first? registrations name).isSome ↔ name ∈ registrations.map Registration.name := by
  simp [first?]

/-- A filter that looks at names only keeps or drops all registrations of a name. -/
theorem first?_filter_name (keep : String → Bool) (registrations : List Registration)
    (name : String) :
    first? (registrations.filter fun registration => keep registration.name) name =
      if keep name then first? registrations name else none := by
  induction registrations with
  | nil => simp [first?]
  | cons registration rest ih =>
      rw [List.filter_cons, first?_cons]
      by_cases same : registration.name = name
      · subst same
        by_cases kept : keep registration.name = true
        · simp [kept, first?_cons]
        · simp [kept, ih]
      · split <;> simp only [first?_cons, same, if_false, ih]

/-- Where names do not repeat, every registration is the first of its name. -/
theorem first?_of_nodup {registrations : List Registration}
    (unique : (registrations.map Registration.name).Nodup) {registration : Registration}
    (member : registration ∈ registrations) :
    first? registrations registration.name = some registration := by
  induction registrations with
  | nil => cases member
  | cons head rest ih =>
      obtain ⟨fresh, restUnique⟩ := List.nodup_cons.mp unique
      rw [first?_cons]
      rcases List.mem_cons.mp member with rfl | member
      · exact if_pos rfl
      · have different : head.name ≠ registration.name := by
          intro same
          exact fresh (same ▸ List.mem_map_of_mem member)
        rw [if_neg different]
        exact ih restUnique member

/-- Of every name that was not seen before, just the first registration is kept. -/
theorem first?_firstOfNames (seen : List String) (registrations : List Registration)
    (name : String) :
    first? (firstOfNames seen registrations) name =
      if name ∈ seen then none else first? registrations name := by
  induction registrations generalizing seen with
  | nil => simp [firstOfNames, first?]
  | cons registration rest ih =>
      unfold firstOfNames
      by_cases present : registration.name ∈ seen
      · rw [if_pos (by simpa using present), ih, first?_cons]
        by_cases same : registration.name = name
        · subst same
          simp [present]
        · simp [same]
      · rw [if_neg (by simpa using present), first?_cons, first?_cons, ih]
        by_cases same : registration.name = name
        · subst same
          simp [present]
        · have different : name ≠ registration.name := fun equal => same equal.symm
          simp [same, different]

/-- Kept registrations have names of their own. -/
theorem nodup_names_firstOfNames (seen : List String) (registrations : List Registration) :
    ((firstOfNames seen registrations).map Registration.name).Nodup := by
  induction registrations generalizing seen with
  | nil => simp [firstOfNames]
  | cons registration rest ih =>
      unfold firstOfNames
      split
      · exact ih seen
      · refine List.nodup_cons.mpr ⟨?_, ih _⟩
        rw [← first?_isSome_iff, first?_firstOfNames]
        simp

/-- Kept registrations stand in the order in which their names first occur. -/
theorem names_firstOfNames (seen : List String) (registrations : List Registration) :
    (firstOfNames seen registrations).map Registration.name =
      ((registrations.map Registration.name).filter fun name => !seen.contains name).eraseDups := by
  induction registrations generalizing seen with
  | nil => rfl
  | cons registration rest ih =>
      unfold firstOfNames
      cases present : seen.contains registration.name with
      | true => rw [if_pos rfl, ih, List.map_cons, List.filter_cons, present]; rfl
      | false =>
          have keep : ∀ name : String, (!name == registration.name && !seen.contains name) =
              !(registration.name :: seen).contains name := fun name => by
            rw [List.contains_cons, Bool.not_or]
          rw [if_neg (by decide), List.map_cons, ih, List.map_cons, List.filter_cons, present]
          simp only [Bool.not_false, if_true, List.eraseDups_cons, List.filter_filter, keep]

end Registration

namespace ManagedRegistrations

open Registration (first?)

theorem nodup_names_enabled_resolve (lists : ManagedRegistrations) :
    (lists.resolve.enabled.map Registration.name).Nodup :=
  Registration.nodup_names_firstOfNames [] lists.enabled

theorem nodup_names_disabled_resolve (lists : ManagedRegistrations) :
    (lists.resolve.disabled.map Registration.name).Nodup :=
  (Registration.nodup_names_firstOfNames [] lists.disabled).sublist
    (List.filter_sublist.map Registration.name)

/-- An enabled name is held by its first enabled entry. -/
theorem first?_enabled_resolve (lists : ManagedRegistrations) (name : String) :
    first? lists.resolve.enabled name = first? lists.enabled name := by
  simp [resolve, Registration.first?_firstOfNames]

theorem mem_names_enabled_resolve (lists : ManagedRegistrations) (name : String) :
    name ∈ lists.resolve.enabled.map Registration.name ↔
      name ∈ lists.enabled.map Registration.name := by
  rw [← Registration.first?_isSome_iff, first?_enabled_resolve, Registration.first?_isSome_iff]

/-- A disabled name is held by its first disabled entry, unless it is enabled as well. -/
theorem first?_disabled_resolve (lists : ManagedRegistrations) (name : String) :
    first? lists.resolve.disabled name =
      if name ∈ lists.enabled.map Registration.name then none
      else first? lists.disabled name := by
  have held := mem_names_enabled_resolve lists name
  have kept := Registration.first?_filter_name
    (fun name => !(lists.resolve.enabled.map Registration.name).contains name)
    (Registration.firstOfNames [] lists.disabled) name
  refine kept.trans ?_
  rw [Registration.first?_firstOfNames]
  by_cases listed : name ∈ lists.enabled.map Registration.name
  · have settled := held.mpr listed
    simp [listed, settled]
  · have settled := mt held.mp listed
    simp [listed, settled]

theorem mem_names_disabled_resolve (lists : ManagedRegistrations) (name : String) :
    name ∈ lists.resolve.disabled.map Registration.name ↔
      name ∉ lists.enabled.map Registration.name ∧
        name ∈ lists.disabled.map Registration.name := by
  rw [← Registration.first?_isSome_iff, first?_disabled_resolve]
  by_cases listed : name ∈ lists.enabled.map Registration.name
  · simp [listed]
  · rw [if_neg listed, Registration.first?_isSome_iff]
    exact ⟨fun disabled => ⟨listed, disabled⟩, fun both => both.2⟩

/-- No name is settled in both lists. -/
theorem disjoint_names_resolve (lists : ManagedRegistrations) (name : String)
    (disabled : name ∈ lists.resolve.disabled.map Registration.name) :
    name ∉ lists.resolve.enabled.map Registration.name := by
  rw [mem_names_enabled_resolve]
  exact ((mem_names_disabled_resolve lists name).mp disabled).1

theorem nodup_names_resolve (lists : ManagedRegistrations) :
    lists.resolve.names.Nodup := by
  rw [names, List.map_append, List.nodup_append]
  refine ⟨nodup_names_enabled_resolve lists, nodup_names_disabled_resolve lists, ?_⟩
  intro enabled enabledMember disabled disabledMember same
  exact disjoint_names_resolve lists disabled disabledMember (same ▸ enabledMember)

/-- The enabled names come first, then those that are only disabled, each at its first
occurrence. -/
theorem names_resolve (lists : ManagedRegistrations) :
    lists.resolve.names = (lists.enabled.map Registration.name).eraseDups ++
      (lists.disabled.map Registration.name).eraseDups.filter fun name =>
        !(lists.enabled.map Registration.name).contains name := by
  have kept : ∀ names : List String, (names.filter fun name => !List.contains [] name) = names :=
    fun names => List.filter_eq_self.mpr fun _ _ => rfl
  have enabled : lists.resolve.enabled.map Registration.name =
      (lists.enabled.map Registration.name).eraseDups := by
    rw [← kept (lists.enabled.map Registration.name), ← Registration.names_firstOfNames]
    rfl
  have disabled : lists.resolve.disabled.map Registration.name =
      (lists.disabled.map Registration.name).eraseDups.filter fun name =>
        !(lists.resolve.enabled.map Registration.name).contains name := by
    rw [← kept (lists.disabled.map Registration.name), ← Registration.names_firstOfNames,
      List.filter_map]
    rfl
  rw [names, List.map_append, disabled, enabled]
  simp only [List.contains_eq_mem, List.mem_eraseDups]

/-- Settling the lists loses no name and adds none. -/
theorem mem_names_resolve (lists : ManagedRegistrations) (name : String) :
    name ∈ lists.resolve.names ↔ name ∈ lists.names := by
  unfold names
  rw [List.map_append, List.map_append, List.mem_append, List.mem_append,
    mem_names_enabled_resolve, mem_names_disabled_resolve]
  by_cases listed : name ∈ lists.enabled.map Registration.name <;> simp [listed]

end ManagedRegistrations

/-- A registration of one version of a group, answered by the API server itself. -/
def sampleRegistration (version : String) : Registration :=
  .named (version ++ ".metrics.example.io")
    { service := none, group := "metrics.example.io", version := version
      insecureSkipTlsVerify := false, caBundle := none
      groupPriorityMinimum := 100, versionPriority := 15 }

example :
    ManagedRegistrations.resolve
        ⟨[sampleRegistration "v1"], [sampleRegistration "v1beta1", sampleRegistration "v1"]⟩ =
      ⟨[sampleRegistration "v1"], [sampleRegistration "v1beta1"]⟩ := by
  decide

end Registrar
