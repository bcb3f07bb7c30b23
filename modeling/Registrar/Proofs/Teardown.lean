import Mathlib.Data.List.Basic
import Registrar.Proofs.Contents
import Registrar.Proofs.Reporting
/-!
# Teardown

A cycle that is told to remove deletes what the lists name, enabled or not, and does nothing else. It
takes up each name once, in the order of the lists, and goes on when a delete fails. Objects that are
being deleted already are left to whoever is deleting them.
-/

set_option autoImplicit false

namespace Registrar

open Registrar.Cycle (Deletion Phase Within calls)

namespace Cycle

/-! ## What a teardown tells -/

/-- The names that were looked up. -/
def lookedUp : Evidence String where
  phase := .deletion
  tell
    | ⟨.cached name, _⟩ => some name
    | _ => none

abbrev lookups (transcript : Transcript calls) : List String :=
  lookedUp.found transcript

/-- The names that were asked to go, and the replies. -/
def deleted : Evidence (String × Except Failure Unit) where
  phase := .deletion
  tell
    | ⟨.delete name, reply⟩ => some (name, reply)
    | _ => none

abbrev removals (transcript : Transcript calls) : List (String × Except Failure Unit) :=
  deleted.found transcript

theorem lookups_deletions (deletions : List Deletion) :
    lookups (deletions.flatMap Deletion.transcript) = deletions.map Deletion.name := by
  rw [← List.filterMap_eq_map]
  refine lookedUp.found_flatMap (fun deletion => ?_) deletions
  cases deletion <;> rfl

/-- The request of a deletion, with its reply, if there was one. -/
def Deletion.request? : Deletion → Option (String × Except Failure Unit)
  | .issued name _ _ reply => some (name, reply)
  | _ => none

theorem removals_deletions (deletions : List Deletion) :
    removals (deletions.flatMap Deletion.transcript) = deletions.filterMap Deletion.request? := by
  refine deleted.found_flatMap (fun deletion => ?_) deletions
  cases deletion <;> rfl

theorem mem_removals (transcript : Transcript calls) (name : String)
    (reply : Except Failure Unit) :
    (name, reply) ∈ removals transcript ↔ ⟨.delete name, reply⟩ ∈ transcript := by
  constructor
  · intro found
    obtain ⟨exchange, member, told⟩ := List.mem_filterMap.mp found
    simp only [deleted] at told
    split at told
    · cases told
      exact member
    · cases told
  · intro member
    exact deleted.mem_found_of_mem member rfl

/-- A cycle that is to remove lists which it was given goes through all their names. -/
theorem Course.exists_deletions {prober : Bool} {transcript : Transcript calls}
    {result : Except Failure Unit} (course : Course prober transcript result)
    (removed : .removed ∈ instructions transcript) {lists : ManagedRegistrations}
    (listed : lists ∈ listings transcript) :
    ∃ deletions : List Deletion, deletions.map Deletion.name = lists.resolve.names ∧
      transcript = ⟨.readMode, .ok .removed⟩ :: ⟨.listManaged, .ok lists⟩ ::
        deletions.flatMap Deletion.transcript ∧
      result = aggregate (deletions.filterMap Deletion.failure) := by
  obtain ⟨rest, rfl⟩ := course.eq_cons_of_instructed removed
  cases course with
  | unlisted => cases listed
  | @removed others deletions names =>
      have only := listings_append [⟨.readMode, .ok .removed⟩, ⟨.listManaged, .ok others⟩]
        ((Within.flatMap Deletion.within deletions).ne (by decide))
      change lists ∈ listings ([⟨.readMode, .ok .removed⟩, ⟨.listManaged, .ok others⟩] ++
        deletions.flatMap Deletion.transcript) at listed
      rw [only] at listed
      obtain rfl := List.mem_singleton.mp listed
      exact ⟨deletions, names, rfl, rfl⟩

end Cycle

namespace World.Store

/-- The store holds an object under the name that nobody has asked to go. -/
def live (store : Store) (name : String) : Bool :=
  (store.get? name).any fun existing => existing.metadata.deletionTimestamp.isNone

theorem request?_deletionOf (store : Store) (name : String) :
    (store.deletionOf name).request? =
      if store.live name then some (name, (store.delete name).1) else none := by
  unfold live
  cases held : store.get? name with
  | none =>
      rw [deletionOf_eq_absent held]
      rfl
  | some existing =>
      cases deleting : existing.isDeleting with
      | true =>
          obtain ⟨time, marked⟩ := existing.isDeleting_iff.mp deleting
          rw [deletionOf_eq_underway held deleting]
          simp [Deletion.request?, marked]
      | false =>
          rw [deletionOf_eq_issued held deleting]
          simp [Deletion.request?, existing.isDeleting_eq_false_iff.mp deleting]

/-- Where nothing is left to delete, a deletion changes nothing. -/
theorem after_deletionOf_eq_self {store : Store} {name : String}
    (done : store.live name = false) : store.after (store.deletionOf name).transcript = store := by
  unfold live at done
  cases held : store.get? name with
  | none =>
      rw [deletionOf_eq_absent held]
      rfl
  | some existing =>
      rw [held] at done
      have deleting : existing.isDeleting = true :=
        existing.isDeleting_iff.mpr (Option.isSome_iff_exists.mp (by simpa using done))
      rw [deletionOf_eq_underway held deleting]
      rfl

/-- A delete that is accepted, of an object without finalizers, leaves nothing. -/
theorem afterDelete_eq_filter {store : Store} {name : String}
    (accepted : store.live name = true → (store.delete name).1 = .ok ())
    (unfinalized : name ∈ store.finalizers → store.get? name = none) :
    store.afterDelete name (store.get? name) =
      (store.get? name).filter fun existing => existing.metadata.deletionTimestamp.isSome := by
  unfold live at accepted
  cases held : store.get? name with
  | none => rfl
  | some existing =>
      rw [held] at accepted unfinalized
      cases deleting : existing.metadata.deletionTimestamp with
      | some time => simp [afterDelete, Option.filter, deleting]
      | none =>
          have replied := accepted (by simp [deleting])
          rw [reply_delete] at replied
          have unrefused : store.deleteFailures.lookup name = none := by
            cases refused : store.deleteFailures.lookup name with
            | none => rfl
            | some failure =>
                rw [refused] at replied
                cases replied
          have free : name ∉ store.finalizers := fun finalized =>
            absurd (unfinalized finalized) (Option.some_ne_none existing)
          simp [afterDelete, Option.filter, deleting, unrefused, free]

end World.Store

namespace Cycle

/-! ## Removals -/

/-- A cycle that is told to remove, and gets the lists, where a store answers for the registrations.
The answers of all other collaborators are arbitrary. -/
structure Removal (lists : ManagedRegistrations) (store : World.Store)
    (transcript : Transcript calls) (result : Except Failure Unit) : Prop where
  yields : ∃ prober, (sync prober).Yields transcript result
  removed : .removed ∈ instructions transcript
  listed : lists ∈ listings transcript
  served : store.Serves transcript

/-- Removals of the same lists, one after the other. -/
inductive Removals (lists : ManagedRegistrations) :
    World.Store → List (Transcript calls) → World.Store → Prop where
  | nil (store : World.Store) : Removals lists store [] store
  | cons {store last : World.Store} {transcript : Transcript calls}
      {result : Except Failure Unit} {rest : List (Transcript calls)} :
      Removal lists store transcript result → Removals lists (store.after transcript) rest last →
      Removals lists store (transcript :: rest) last

/-- Of the listed names only objects are left that were being deleted before, and further removals do
not ask for anything. -/
structure Vacated (lists : ManagedRegistrations) (before after : World.Store) : Prop where
  gone : ∀ name ∈ lists.names,
    after.get? name =
      (before.get? name).filter fun existing => existing.metadata.deletionTimestamp.isSome
  quiet : ∀ {further last}, Removals lists after further last →
    last = after ∧ ∀ transcript ∈ further, removals transcript = []

/-- What a removal does and tells. -/
structure TornDown (lists : ManagedRegistrations) (store : World.Store)
    (transcript : Transcript calls) (result : Except Failure Unit) : Prop where
  /-- Each name is looked up once, the enabled ones first. -/
  looked : lookups transcript = (lists.enabled.map Registration.name).eraseDups ++
    (lists.disabled.map Registration.name).eraseDups.filter fun name =>
      !(lists.enabled.map Registration.name).contains name
  /-- Whatever the replies are, all live objects are asked to go. -/
  asked : (removals transcript).map Prod.fst = (lookups transcript).filter store.live
  idle : ∀ exchange ∈ transcript,
    exchange.question.phase = .opening ∨ exchange.question.phase = .deletion
  untouched : ∀ name ∉ lists.names, (store.after transcript).get? name = store.get? name
  told : result = aggregate (leftovers transcript)
  ok_iff : result = .ok () ↔
    ∀ name failure, ⟨.delete name, .error failure⟩ ∈ transcript → failure.SaysGone
  vacated : (∀ name failure, ⟨.delete name, .error failure⟩ ∉ transcript) →
    (∀ name ∈ lists.names, name ∈ store.finalizers → store.get? name = none) →
    Vacated lists store (store.after transcript)

/-- A removal goes through the names of its lists, each as the store holds it at the start. -/
theorem Removal.eq_forecast {lists : ManagedRegistrations} {store : World.Store}
    {transcript : Transcript calls} {result : Except Failure Unit}
    (removal : Removal lists store transcript result) :
    let deletions := lists.resolve.names.map store.deletionOf
    transcript = ⟨.readMode, .ok .removed⟩ :: ⟨.listManaged, .ok lists⟩ ::
        deletions.flatMap Deletion.transcript ∧
      result = aggregate (deletions.filterMap Deletion.failure) ∧
      ∀ name, (store.after transcript).get? name =
        if name ∈ lists.names then store.afterDelete name (store.get? name)
        else store.get? name := by
  intro deletions
  obtain ⟨prober, yields⟩ := removal.yields
  obtain ⟨taken, names, same, told⟩ := ((sync_yields_iff prober _ _).mp yields).exists_deletions
    removal.removed removal.listed
  have served := removal.served
  rw [same] at served
  obtain ⟨forecast, contents⟩ := World.Store.serves_deletions
    (names ▸ lists.nodup_names_resolve) served.2.2
  rw [names] at forecast contents
  rw [forecast] at same told contents
  refine ⟨same, told, fun name => ?_⟩
  rw [same]
  have left := contents name
  simp only [lists.mem_names_resolve] at left
  exact left

/-- A store in which none of the names is live stays as it is, and nothing is asked of it. -/
theorem Removals.quiet {lists : ManagedRegistrations} {store last : World.Store}
    {further : List (Transcript calls)} (run : Removals lists store further last)
    (done : ∀ name ∈ lists.names, store.live name = false) :
    last = store ∧ ∀ transcript ∈ further, removals transcript = [] := by
  induction run with
  | nil store =>
      refine ⟨rfl, ?_⟩
      intro transcript member
      cases member
  | @cons store last transcript result rest removal run ih =>
      obtain ⟨same, _, _⟩ := removal.eq_forecast
      have listed : ∀ name ∈ lists.resolve.names, store.live name = false :=
        fun name member => done name ((lists.mem_names_resolve name).mp member)
      have unchanged : store.after transcript = store := by
        rw [same]
        refine store.after_flatMap_eq_self (List.forall_mem_map.mpr fun name member => ?_)
        exact World.Store.after_deletionOf_eq_self (listed name member)
      have unasked : removals transcript = [] := by
        rw [same]
        refine (removals_deletions _).trans ?_
        rw [List.filterMap_map, List.filterMap_eq_nil_iff]
        intro name member
        simp [World.Store.request?_deletionOf, listed name member]
      rw [unchanged] at ih
      obtain ⟨stayed, quiet⟩ := ih done
      exact ⟨stayed, List.forall_mem_cons.mpr ⟨unasked, quiet⟩⟩

/-- For all lists, all stores and all replies: a cycle that is told to remove looks up every listed
name once, asks all live objects to go and does nothing else. It tells just the failures that count,
and if nothing has failed, there is nothing left to do for any further one. -/
theorem removal_tears_down {lists : ManagedRegistrations} {store : World.Store}
    {transcript : Transcript calls} {result : Except Failure Unit}
    (removal : Removal lists store transcript result) :
    TornDown lists store transcript result := by
  obtain ⟨same, told, contents⟩ := removal.eq_forecast
  have looked : lookups transcript = lists.resolve.names := by
    rw [same]
    refine (lookups_deletions _).trans ?_
    rw [List.map_map]
    exact (List.map_congr_left fun name _ => store.name_deletionOf name).trans (List.map_id _)
  have requests : removals transcript = (lists.resolve.names.filter store.live).map fun name =>
      (name, (store.delete name).1) := by
    rw [same]
    refine (removals_deletions _).trans ?_
    rw [List.filterMap_map, ← List.filterMap_eq_map, List.filterMap_filter]
    exact List.filterMap_congr fun name _ => store.request?_deletionOf name
  have failures : leftovers transcript =
      (lists.resolve.names.map store.deletionOf).filterMap Deletion.failure := by
    rw [same]
    exact leftovers_deletions _
  have told : result = aggregate (leftovers transcript) := by rw [failures, told]
  refine ⟨looked.trans lists.names_resolve, ?_, ?_, ?_, told, ?_, ?_⟩
  · rw [requests, looked, List.map_map]
    exact List.map_id _
  · rw [same]
    intro exchange member
    rcases List.mem_cons.mp member with rfl | member
    · exact .inl rfl
    · rcases List.mem_cons.mp member with rfl | member
      · exact .inl rfl
      · exact .inr (Within.flatMap Deletion.within _ exchange member)
  · intro name unlisted
    rw [contents, if_neg unlisted]
  · rw [told, aggregate_eq_ok_iff, leftovers_eq_nil_iff]
    simp only [not_exists, not_and, Classical.not_not]
  · intro accepted unfinalized
    have gone : ∀ name ∈ lists.names, (store.after transcript).get? name =
        (store.get? name).filter fun existing => existing.metadata.deletionTimestamp.isSome := by
      intro name member
      rw [contents, if_pos member]
      refine World.Store.afterDelete_eq_filter ?_ (unfinalized name member)
      intro live
      have asked : (name, (store.delete name).1) ∈ removals transcript := by
        rw [requests]
        exact List.mem_map.mpr ⟨name, List.mem_filter.mpr
          ⟨(lists.mem_names_resolve name).mpr member, live⟩, rfl⟩
      cases replied : (store.delete name).1 with
      | ok => rfl
      | error failure =>
          rw [replied] at asked
          exact absurd ((mem_removals _ _ _).mp asked) (accepted name failure)
    refine ⟨gone, fun run => run.quiet fun name member => ?_⟩
    rw [World.Store.live, gone name member]
    cases held : store.get? name with
    | none => rfl
    | some existing =>
        cases deleting : existing.metadata.deletionTimestamp <;> simp [Option.filter, deleting]

/-- A world that is told to remove, with two of the listed registrations in its store. -/
def sampleTeardown : World :=
  { World.sampleWorld with
    mode := "Removed"
    store := { objects := World.Objects.ofList World.sampleLists.disabled } }

/-- All three names are looked up, the two that are held are deleted, and nothing is left to do. -/
theorem removal_tears_down_sample :
    let performed := perform World.answer false sampleTeardown
    Removal World.sampleLists sampleTeardown.store performed.transcript performed.result ∧
      lookups performed.transcript = ["v1.metrics.example.io", "v1alpha1.metrics.example.io",
        "v1beta1.metrics.example.io"] ∧
      mutations performed.transcript =
        ["v1alpha1.metrics.example.io", "v1beta1.metrics.example.io"] ∧
      performed.result = .ok () ∧ performed.state.store.get? "v1beta1.metrics.example.io" = none ∧
      ∀ {further last}, Removals World.sampleLists performed.state.store further last →
        last = performed.state.store ∧ ∀ transcript ∈ further, removals transcript = [] := by
  intro performed
  have followed : Interaction.Follows World.answer sampleTeardown performed.transcript
      performed.state :=
    Interaction.follows_transcriptIn (sync false) sampleTeardown
  obtain ⟨served, ended⟩ := World.serves_of_follows followed
  have removal : Removal World.sampleLists sampleTeardown.store performed.transcript
      performed.result :=
    ⟨⟨false, Interaction.yields_transcriptIn (sync false) sampleTeardown⟩, by decide, .head _, served⟩
  have torn := removal_tears_down removal
  have result : performed.result = .ok () := rfl
  have accepted : ∀ name failure,
      (⟨.delete name, .error failure⟩ : Exchange calls) ∉ performed.transcript := by
    intro name failure member
    have asked := (mem_removals _ _ _).mpr member
    have replies : removals performed.transcript =
        [("v1alpha1.metrics.example.io", .ok ()), ("v1beta1.metrics.example.io", .ok ())] := rfl
    simp [replies] at asked
  have vacated := torn.vacated accepted fun name _ finalized => nomatch finalized
  rw [← ended] at vacated
  exact ⟨removal, by decide, by decide, result, by decide, vacated.quiet⟩

/-- An object that is on its way out. -/
def sampleDeparting : Registration :=
  { sampleRegistration "v1beta1" with
    metadata :=
      { (sampleRegistration "v1beta1").metadata with deletionTimestamp := some ⟨0, 0⟩ } }

/-- An object that is being deleted already stays where it is, also without any finalizer: it is not
asked to go again. -/
theorem removal_leaves_departing :
    let lists : ManagedRegistrations := ⟨[], [sampleRegistration "v1beta1"]⟩
    let store : World.Store := { objects := World.Objects.ofList [sampleDeparting] }
    let transcript : Transcript calls :=
      [⟨.readMode, .ok .removed⟩, ⟨.listManaged, .ok lists⟩,
        ⟨.cached "v1beta1.metrics.example.io", some sampleDeparting⟩]
    Removal lists store transcript (.ok ()) ∧
      (∀ name failure, (⟨.delete name, .error failure⟩ : Exchange calls) ∉ transcript) ∧
      store.finalizers = [] ∧ "v1beta1.metrics.example.io" ∈ lists.names ∧
      (store.after transcript).get? "v1beta1.metrics.example.io" = some sampleDeparting := by
  intro lists store transcript
  have yields : (sync false).Yields transcript (.ok ()) := .ask (.ask (.ask (.done _)))
  exact ⟨⟨⟨false, yields⟩, .head _, .head _, trivial, trivial, rfl, trivial⟩, by simp [transcript],
    rfl, by decide, by decide⟩

end Cycle

end Registrar
