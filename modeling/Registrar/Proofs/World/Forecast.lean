import Registrar.Proofs.Cycle.Evidence
import Registrar.Proofs.World.Effects
/-!
# What a store will do

How a delete or an apply will go can be told beforehand from what the store holds under the name. A
phase takes up each name once, so the whole phase can be told from the store as it is when the phase
begins, and so can what it leaves under each name.
-/

set_option autoImplicit false

namespace Registrar

open Registrar.Cycle (Deletion Attempt ManagedRun Phase Within calls)

namespace World.Store

theorem next_eq_self {question : Cycle.Call} (notDeletion : question.phase ≠ .deletion)
    (notApplication : question.phase ≠ .application) (store : Store) :
    store.next question = store := by
  cases question <;> first | rfl | exact absurd rfl notDeletion | exact absurd rfl notApplication

theorem after_of_within (store : Store) {phase : Phase} {transcript : Transcript calls}
    (within : Within phase transcript) (notDeletion : phase ≠ .deletion)
    (notApplication : phase ≠ .application) : store.after transcript = store :=
  store.after_eq_self fun exchange member =>
    store.next_eq_self (within.ne notDeletion exchange member)
      (within.ne notApplication exchange member)

/-! ## Deletions -/

theorem reply_delete (store : Store) (name : String) :
    (store.delete name).1 =
      match store.deleteFailures.lookup name with
      | some failure => .error failure
      | none => .ok () := by
  unfold delete
  cases store.deleteFailures.lookup name with
  | some failure => rfl
  | none =>
      dsimp only
      split
      · split <;> rfl
      · rfl

/-- How the deletion of a name will go. -/
def deletionOf (store : Store) (name : String) : Deletion :=
  match store.get? name with
  | none => .absent name
  | some existing =>
      if deleting : existing.isDeleting = true then .underway name existing deleting
      else .issued name existing (Bool.eq_false_iff.mpr deleting) (store.delete name).1

section DeletionOf

variable {store : Store} {name : String} {existing : Registration}

theorem deletionOf_eq_absent (missing : store.get? name = none) :
    store.deletionOf name = .absent name := by
  simp [deletionOf, missing]

theorem deletionOf_eq_underway (held : store.get? name = some existing)
    (deleting : existing.isDeleting = true) :
    store.deletionOf name = .underway name existing deleting := by
  simp [deletionOf, held, deleting]

theorem deletionOf_eq_issued (held : store.get? name = some existing)
    (live : existing.isDeleting = false) :
    store.deletionOf name = .issued name existing live (store.delete name).1 := by
  simp [deletionOf, held, live]

theorem name_deletionOf (store : Store) (name : String) : (store.deletionOf name).name = name := by
  cases held : store.get? name with
  | none => rw [deletionOf_eq_absent held, Deletion.name]
  | some existing =>
      cases deleting : existing.isDeleting with
      | true => rw [deletionOf_eq_underway held deleting, Deletion.name]
      | false => rw [deletionOf_eq_issued held deleting, Deletion.name]

end DeletionOf

/-- What a store holds under a name, and how it treats it, is all that counts for its deletion. -/
theorem Alike.deletionOf_eq {first last : Store} (alike : first.Alike last) {name : String}
    (held : last.get? name = first.get? name) : last.deletionOf name = first.deletionOf name := by
  have replied : (last.delete name).1 = (first.delete name).1 := by
    rw [reply_delete, reply_delete, alike]
  unfold deletionOf
  rw [held, replied]

theorem deletion_eq_of_serves {store : Store} {deletion : Deletion}
    (served : store.Serves deletion.transcript) :
    deletion = store.deletionOf deletion.name := by
  cases deletion with
  | absent name => exact (deletionOf_eq_absent served.1).symm
  | underway name existing deleting => exact (deletionOf_eq_underway served.1 deleting).symm
  | issued name existing live reply =>
      have replied : (store.delete name).1 = reply := served.2.2.1
      rw [Deletion.name, deletionOf_eq_issued served.1 live, replied]

/-- A deletion decides what is held under its name and leaves all other names alone. -/
theorem get?_after_deletion {store : Store} {deletion : Deletion}
    (served : store.Serves deletion.transcript) (name : String) :
    (store.after deletion.transcript).get? name =
      if name = deletion.name then store.afterDelete name (store.get? name)
      else store.get? name := by
  cases deletion with
  | absent deleted =>
      have missing : store.get? deleted = none := served.1
      have same : store.after (Deletion.absent deleted).transcript = store := rfl
      rw [same]
      split
      · next named =>
          rw [named, Deletion.name, missing]
          rfl
      · rfl
  | underway deleted existing deleting =>
      have held : store.get? deleted = some existing := served.1
      have same : store.after (Deletion.underway deleted existing deleting).transcript = store := rfl
      rw [same]
      split
      · next named =>
          rw [named, Deletion.name, held]
          obtain ⟨time, marked⟩ := existing.isDeleting_iff.mp deleting
          simp [afterDelete, marked]
      · rfl
  | issued deleted existing live reply =>
      have held : store.get? deleted = some existing := served.1
      have same : store.after (Deletion.issued deleted existing live reply).transcript =
          (store.delete deleted).2 := rfl
      rw [same]
      split
      · next named =>
          rw [named, Deletion.name, held]
          exact store.get?_delete_self held live
      · next different => exact store.get?_delete_of_ne different

/-- A phase of deletions takes up every name as the store holds it when the phase begins, and decides
what is held under these names. -/
theorem serves_deletions {store : Store} {deletions : List Deletion}
    (unique : (deletions.map Deletion.name).Nodup)
    (served : store.Serves (deletions.flatMap Deletion.transcript)) :
    deletions = (deletions.map Deletion.name).map store.deletionOf ∧
      ∀ name, (store.after (deletions.flatMap Deletion.transcript)).get? name =
        if name ∈ deletions.map Deletion.name then store.afterDelete name (store.get? name)
        else store.get? name := by
  induction deletions generalizing store with
  | nil => exact ⟨rfl, fun _ => rfl⟩
  | cons deletion rest ih =>
      obtain ⟨fresh, uniqueRest⟩ := List.nodup_cons.mp unique
      rw [List.flatMap_cons, serves_append_iff] at served
      obtain ⟨head, tail⟩ := served
      obtain ⟨forecast, contents⟩ := ih uniqueRest tail
      have here := get?_after_deletion head
      have alike := store.alike_after deletion.transcript
      constructor
      · have later : (rest.map Deletion.name).map (store.after deletion.transcript).deletionOf =
            (rest.map Deletion.name).map store.deletionOf := by
          refine List.map_congr_left fun name member => alike.deletionOf_eq ?_
          have different : name ≠ deletion.name := fun same => fresh (same ▸ member)
          rw [here, if_neg different]
        rw [List.map_cons, List.map_cons, ← deletion_eq_of_serves head, ← later, ← forecast]
      · intro name
        rw [List.flatMap_cons, after_append, contents, alike.afterDelete_eq, here, List.map_cons]
        by_cases named : name = deletion.name
        · have absent : name ∉ rest.map Deletion.name := named ▸ fresh
          simp [named, fresh]
        · simp [named]

/-! ## Attempts -/

theorem reply_apply (store : Store) (desired : Registration) :
    (store.apply desired).1 =
      match store.applyFailures.lookup desired.name with
      | some failure => .error failure
      | none => .ok ⟨store.stored desired,
          (store.get? desired.name).all fun held => held.spec ≠ (store.stored desired).spec⟩ := by
  unfold apply
  dsimp only
  cases store.applyFailures.lookup desired.name <;> rfl

/-- How the attempt to apply a registration will go. -/
def attemptOf (store : Store) (registration : Registration) : Attempt :=
  ⟨registration, (store.apply registration.withDefaults).1⟩

theorem Alike.attemptOf_eq {first last : Store} (alike : first.Alike last)
    {registration : Registration}
    (held : last.get? registration.name = first.get? registration.name) :
    last.attemptOf registration = first.attemptOf registration := by
  have held : last.get? registration.withDefaults.name = first.get? registration.withDefaults.name :=
    held
  unfold attemptOf
  rw [reply_apply, reply_apply, held, alike]
  rfl

theorem attempt_eq_of_serves {store : Store} {attempt : Attempt}
    (served : store.Serves attempt.transcript) :
    attempt = store.attemptOf attempt.registration := by
  have replied : (store.apply attempt.registration.withDefaults).1 = attempt.reply := served.1
  unfold attemptOf
  rw [replied]

theorem after_attempt (store : Store) (attempt : Attempt) :
    store.after attempt.transcript = (store.apply attempt.registration.withDefaults).2 := by
  obtain ⟨registration, reply⟩ := attempt
  cases reply <;> rfl

/-- An attempt decides what is held under its name and leaves all other names alone. -/
theorem get?_after_attempt (store : Store) (attempt : Attempt) (name : String) :
    (store.after attempt.transcript).get? name =
      if name = attempt.registration.name then
        store.afterApply attempt.registration.withDefaults (store.get? name)
      else store.get? name := by
  rw [after_attempt]
  exact store.get?_apply attempt.registration.withDefaults name

/-- A phase of attempts takes up every registration as the store holds its name when the phase
begins, and decides what is held under these names. -/
theorem serves_attempts {store : Store} {attempts : List Attempt}
    (unique : ((attempts.map Attempt.registration).map Registration.name).Nodup)
    (served : store.Serves (attempts.flatMap Attempt.transcript)) :
    attempts = (attempts.map Attempt.registration).map store.attemptOf ∧
      ∀ name, (store.after (attempts.flatMap Attempt.transcript)).get? name =
        match Registration.first? (attempts.map Attempt.registration) name with
        | some entry => store.afterApply entry.withDefaults (store.get? name)
        | none => store.get? name := by
  induction attempts generalizing store with
  | nil => exact ⟨rfl, fun _ => rfl⟩
  | cons attempt rest ih =>
      obtain ⟨fresh, uniqueRest⟩ := List.nodup_cons.mp unique
      rw [List.flatMap_cons, serves_append_iff] at served
      obtain ⟨head, tail⟩ := served
      obtain ⟨forecast, contents⟩ := ih uniqueRest tail
      have here := store.get?_after_attempt attempt
      have alike := store.alike_after attempt.transcript
      constructor
      · have later : (rest.map Attempt.registration).map
            (store.after attempt.transcript).attemptOf =
              (rest.map Attempt.registration).map store.attemptOf := by
          refine List.map_congr_left fun registration member => alike.attemptOf_eq ?_
          have different : registration.name ≠ attempt.registration.name := fun same =>
            fresh (same ▸ List.mem_map_of_mem member)
          rw [here, if_neg different]
        rw [List.map_cons, List.map_cons, ← attempt_eq_of_serves head, ← later, ← forecast]
      · intro name
        rw [List.flatMap_cons, after_append, contents, alike.afterApply_eq, List.map_cons,
          Registration.first?_cons]
        by_cases named : attempt.registration.name = name
        · have absent : Registration.first? (rest.map Attempt.registration) name = none := by
            rw [← Option.not_isSome_iff_eq_none, Registration.first?_isSome_iff]
            exact named ▸ fresh
          rw [absent, if_pos named, here, if_pos named.symm]
        · rw [if_neg named, here, if_neg (Ne.symm named)]

end World.Store

/-! ## Managed cycles -/

namespace Cycle.ManagedRun

variable {prober : Bool} {lists : ManagedRegistrations}

theorem nodup_names_deletions (run : ManagedRun prober lists.resolve) :
    (run.deletions.map Deletion.name).Nodup :=
  run.names ▸ lists.nodup_names_disabled_resolve

theorem nodup_names_attempts (run : ManagedRun prober lists.resolve) :
    ((run.attempts.map Attempt.registration).map Registration.name).Nodup :=
  lists.nodup_names_enabled_resolve.sublist (run.gated.registrations_sublist.map Registration.name)

/-- Only the two phases that change registrations have to do with the store. -/
theorem serves_exchanges (run : ManagedRun prober lists) {store : World.Store}
    (served : store.Serves run.exchanges) :
    store.Serves (run.part .deletion) ∧
      (store.after (run.part .deletion)).Serves (run.part .application) ∧
      store.after run.exchanges =
        (store.after (run.part .deletion)).after (run.part .application) := by
  have quiet : ∀ (phase : Phase) (store : World.Store), phase ≠ .deletion →
      phase ≠ .application → store.after (run.part phase) = store :=
    fun phase store => store.after_of_within (run.within_part phase)
  rw [run.exchanges_eq, World.Store.serves_append_iff, World.Store.serves_append_iff,
    World.Store.serves_append_iff, quiet .gate _ (by decide) (by decide)] at served
  refine ⟨served.1, served.2.2.1, ?_⟩
  rw [run.exchanges_eq, World.Store.after_append, World.Store.after_append,
    World.Store.after_append, World.Store.after_append,
    quiet .gate _ (by decide) (by decide),
    quiet .verification _ (by decide) (by decide),
    quiet .report _ (by decide) (by decide)]

end Cycle.ManagedRun

end Registrar
