import Mathlib.Data.List.Basic
import Registrar.Proofs.Contents
import Registrar.Proofs.Cycle.Order
import Registrar.Proofs.Reporting
/-!
# A cycle that is repeated

A cycle that is done again at once, with collaborators that answer as before, changes nothing any
more. What was deleted is gone or on its way, what was applied is held already, and what was refused
is refused again. So the second cycle reports what the first one has reported.
-/

set_option autoImplicit false

namespace Registrar

open Interaction (Follows)
open Registrar.Cycle (Call Deletion Attempt ManagedRun Phase Applied calls)

namespace World

/-! ## Storing once more -/

namespace Objects

/-- What was just stored is stored once more without a difference. -/
theorem insert_insert_self (objects : Objects) (name : String) (object : Registration) :
    (objects.insert name object).insert name object = objects.insert name object := by
  induction objects with
  | nil => simp [insert]
  | cons entry rest ih =>
      obtain ⟨other, held⟩ := entry
      by_cases same : name = other
      · simp [insert, same]
      · by_cases before : name < other
        · simp [insert, same, before]
        · simp [insert, same, before, ih]

/-- What makes no difference to store makes none after another name was stored. -/
theorem insert_insert_of_ne {objects : Objects} {name other : String} {object value : Registration}
    (settled : objects.insert name object = objects) (different : other ≠ name) :
    (objects.insert other value).insert name object = objects.insert other value := by
  induction objects with
  | nil => cases settled
  | cons entry rest ih =>
      obtain ⟨head, held⟩ := entry
      by_cases same : name = head
      · -- the name is held here, so the other one goes before it or further down
        subst same
        obtain rfl : object = held := by simpa [insert] using settled
        by_cases before : other < name
        · have after : ¬ name < other := String.lt_asymm before
          simp [insert, different, different.symm, before, after]
        · simp [insert, different, before]
      · by_cases before : name < head
        · have longer := congrArg List.length settled
          simp [insert, same, before] at longer
        · have further : insert name object rest = rest := by
            simpa [insert, same, before] using settled
          by_cases here : other = head
          · subst here
            simp [insert, same, before, further]
          · by_cases ahead : other < head
            · have after : ¬ name < other := fun less => before (String.lt_trans less ahead)
              simp [insert, here, ahead, different.symm, after, same, before, further]
            · simp [insert, here, ahead, same, before, ih further]

end Objects

namespace Store

/-- The store holds a registration as it is desired: to apply it makes no difference. -/
def Holds (store : Store) (desired : Registration) : Prop :=
  (store.apply desired).2 = store

theorem objects_apply {store : Store} {desired : Registration}
    (accepted : store.applyFailures.lookup desired.name = none) :
    (store.apply desired).2 =
      { store with objects := store.objects.insert desired.name (store.stored desired) } := by
  unfold apply
  dsimp only
  rw [accepted]

theorem apply_eq_self_of_refused {store : Store} {desired : Registration} {failure : Failure}
    (refused : store.applyFailures.lookup desired.name = some failure) :
    (store.apply desired).2 = store := by
  unfold apply
  dsimp only
  rw [refused]

theorem holds_iff (store : Store) (desired : Registration) :
    store.Holds desired ↔ (store.applyFailures.lookup desired.name = none →
      store.objects.insert desired.name (store.stored desired) = store.objects) := by
  unfold Holds
  cases refused : store.applyFailures.lookup desired.name with
  | some failure => simp [apply_eq_self_of_refused refused]
  | none =>
      rw [objects_apply refused]
      exact ⟨fun same _ => congrArg Store.objects same,
        fun settled => congrArg (fun objects => { store with objects := objects }) (settled rfl)⟩

theorem holds_apply (store : Store) (desired : Registration) :
    (store.apply desired).2.Holds desired := by
  cases refused : store.applyFailures.lookup desired.name with
  | some failure =>
      have same := apply_eq_self_of_refused refused
      exact same.symm ▸ same
  | none =>
      rw [objects_apply refused, holds_iff]
      exact fun _ => store.objects.insert_insert_self desired.name (store.stored desired)

theorem Holds.apply_of_ne {store : Store} {desired other : Registration}
    (holds : store.Holds desired) (different : other.name ≠ desired.name) :
    (store.apply other).2.Holds desired := by
  cases refused : store.applyFailures.lookup other.name with
  | some failure => exact (apply_eq_self_of_refused refused).symm ▸ holds
  | none =>
      rw [objects_apply refused, holds_iff]
      intro accepted
      exact Objects.insert_insert_of_ne ((store.holds_iff desired).mp holds accepted) different

/-- An apply that makes no difference reports none. -/
theorem Holds.changed_eq_false {store : Store} {desired : Registration}
    (holds : store.Holds desired) {applied : Applied}
    (accepted : (store.apply desired).1 = .ok applied) : applied.changed = false := by
  rw [reply_apply] at accepted
  cases refused : store.applyFailures.lookup desired.name with
  | some failure =>
      rw [refused] at accepted
      cases accepted
  | none =>
      have held : store.get? desired.name = some (store.stored desired) := by
        have left := store.get?_apply desired desired.name
        rw [holds, if_pos rfl, afterApply, refused] at left
        exact left
      rw [refused, held] at accepted
      cases accepted
      simp

theorem Holds.after_attempts {store : Store} {desired : Registration} (holds : store.Holds desired)
    {attempts : List Attempt}
    (fresh : desired.name ∉ (attempts.map Attempt.registration).map Registration.name) :
    (store.after (attempts.flatMap Attempt.transcript)).Holds desired := by
  induction attempts generalizing store with
  | nil => exact holds
  | cons attempt rest ih =>
      simp only [List.map_cons, List.mem_cons, not_or] at fresh
      rw [List.flatMap_cons, after_append, after_attempt]
      exact ih (holds.apply_of_ne (Ne.symm fresh.1)) fresh.2

/-- After a phase of attempts the store holds all that it has accepted, and refuses the others. -/
theorem holds_of_attempted (store : Store) {attempts : List Attempt}
    (unique : ((attempts.map Attempt.registration).map Registration.name).Nodup) :
    ∀ registration ∈ attempts.map Attempt.registration,
      (store.after (attempts.flatMap Attempt.transcript)).Holds registration.withDefaults := by
  induction attempts generalizing store with
  | nil =>
      intro registration member
      cases member
  | cons attempt rest ih =>
      obtain ⟨fresh, uniqueRest⟩ := List.nodup_cons.mp unique
      intro registration member
      rw [List.flatMap_cons, after_append, after_attempt]
      rcases List.mem_cons.mp member with rfl | member
      · exact (store.holds_apply _).after_attempts fresh
      · exact ih _ uniqueRest registration member

/-! ## Phases that are repeated -/

/-- A deletion that is made again changes nothing. It fails as the first one did, and asks for
nothing that was not refused then. -/
structure Repeats (store : Store) (once again : Deletion) : Prop where
  failure : again.failure = once.failure
  stable : store.after again.transcript = store
  refused : ∀ name reply, ⟨.delete name, reply⟩ ∈ again.transcript →
    ∃ failure, ⟨.delete name, .error failure⟩ ∈ once.transcript

theorem delete_eq_self_of_refused {store : Store} {name : String} {failure : Failure}
    (refused : store.deleteFailures.lookup name = some failure) :
    store.delete name = (.error failure, store) := by
  unfold delete
  rw [refused]

/-- Of what a deletion has left there is nothing to delete, unless it was refused. -/
theorem Alike.repeats {store later : Store} (alike : store.Alike later) {name : String}
    (left : later.get? name = store.afterDelete name (store.get? name)) :
    later.Repeats (store.deletionOf name) (later.deletionOf name) := by
  cases held : store.get? name with
  | none =>
      rw [held] at left
      rw [deletionOf_eq_absent held, deletionOf_eq_absent left]
      exact ⟨rfl, rfl, by simp [Deletion.transcript]⟩
  | some existing =>
      rw [held, afterDelete] at left
      cases deleting : existing.isDeleting with
      | true =>
          rw [if_pos (.inl deleting)] at left
          rw [deletionOf_eq_underway held deleting, deletionOf_eq_underway left deleting]
          exact ⟨rfl, rfl, by simp [Deletion.transcript]⟩
      | false =>
          rw [deletionOf_eq_issued held deleting]
          cases refused : store.deleteFailures.lookup name with
          | some failure =>
              have refusedAgain : later.deleteFailures.lookup name = some failure := by
                rw [alike]
                exact refused
              rw [if_pos (.inr (by simp [refused]))] at left
              rw [deletionOf_eq_issued left deleting, delete_eq_self_of_refused refused,
                delete_eq_self_of_refused refusedAgain]
              refine ⟨rfl, congrArg Prod.snd (delete_eq_self_of_refused refusedAgain), ?_⟩
              intro other reply member
              obtain ⟨rfl, -⟩ : other = name ∧ _ := by simpa [Deletion.transcript] using member
              exact ⟨failure, by simp [Deletion.transcript]⟩
          | none =>
              have accepted : (store.delete name).1 = .ok () := by rw [reply_delete, refused]
              rw [if_neg (by simp [existing.isDeleting_eq_false_iff.mp deleting, refused])] at left
              rw [accepted]
              split at left
              · have marked : (store.marked existing).isDeleting = true := rfl
                rw [deletionOf_eq_underway left marked]
                exact ⟨rfl, rfl, by simp [Deletion.transcript]⟩
              · rw [deletionOf_eq_absent left]
                exact ⟨rfl, rfl, by simp [Deletion.transcript]⟩

theorem Alike.failure_attemptOf {first last : Store} (alike : first.Alike last)
    (registration : Registration) :
    (last.attemptOf registration).failure = (first.attemptOf registration).failure := by
  unfold attemptOf Attempt.failure
  rw [reply_apply, reply_apply, alike]
  dsimp only
  cases first.applyFailures.lookup registration.withDefaults.name <;> rfl

theorem Alike.message_attemptOf {first last : Store} (alike : first.Alike last)
    (registration : Registration) :
    (last.attemptOf registration).message = (first.attemptOf registration).message := by
  unfold attemptOf Attempt.message
  rw [reply_apply, reply_apply, alike]
  dsimp only
  cases first.applyFailures.lookup registration.withDefaults.name <;> rfl

end Store

end World

/-- A condition without the time at which it was written. -/
def Condition.untimed (condition : Condition) : Condition :=
  { condition with lastTransitionTime := "" }

namespace Cycle

/-! ## Collaborators that answer as before -/

/-- Collaborators that answer a call in one way only. The registrations and the time are not theirs
to tell. -/
structure Collaborators where
  reply : (question : Call) → question.Reply
  /-- Whether conditions are accepted does not depend on when they are written. -/
  untimed : ∀ conditions : List Condition,
    reply (.writeConditions (conditions.map Condition.untimed)) = reply (.writeConditions conditions)

namespace Collaborators

/-- The answers of a store, of a clock that is read again and again, and of the collaborators. -/
def answer (collaborators : Collaborators) (clock : Nat → String) :
    (question : Call) → StateM (World.Store × Nat) question.Reply
  | .cached name => modifyGet fun (store, ticks) => (store.get? name, (store, ticks))
  | .delete name =>
      modifyGet fun (store, ticks) => ((store.delete name).1, ((store.delete name).2, ticks))
  | .apply desired =>
      modifyGet fun (store, ticks) => ((store.apply desired).1, ((store.apply desired).2, ticks))
  | .now => modifyGet fun (store, ticks) => (clock ticks, (store, ticks + 1))
  | question => pure (collaborators.reply question)

/-- A reply that the collaborators can give is the one that they always give. -/
def Replies (collaborators : Collaborators) : Exchange calls → Prop
  | ⟨.cached _, _⟩ | ⟨.delete _, _⟩ | ⟨.apply _, _⟩ | ⟨.now, _⟩ => True
  | ⟨question, reply⟩ => collaborators.reply question = reply

theorem answered (collaborators : Collaborators) (clock : Nat → String) (question : Call)
    (state : World.Store × Nat) :
    collaborators.Replies ⟨question, ((collaborators.answer clock question).run state).1⟩ ∧
      state.1.Replies ⟨question, ((collaborators.answer clock question).run state).1⟩ ∧
      ((collaborators.answer clock question).run state).2.1 = state.1.next question := by
  cases question <;> exact ⟨by trivial, by trivial, rfl⟩

theorem serves_of_follows {collaborators : Collaborators} {clock : Nat → String}
    {transcript : Transcript calls} {first last : World.Store × Nat}
    (followed : Follows (collaborators.answer clock) first transcript last) :
    (∀ exchange ∈ transcript, collaborators.Replies exchange) ∧ first.1.Serves transcript ∧
      last.1 = first.1.after transcript :=
  ⟨followed.forall_mem fun question state => (collaborators.answered clock question state).1,
    World.Store.serves_of_follows
      (fun question state => (collaborators.answered clock question state).2) followed⟩

end Collaborators

variable {collaborators : Collaborators}

/-- What a phase of applies comes to, if these versions are missing from discovery. -/
def verification (prober : Bool) (application : Application) (missing : List String) :
    Except Failure Unit :=
  match application.failures, application.messages with
  | [], [] => if prober then verdict missing else .ok ()
  | [], message :: messages => .error (unavailable (message :: messages))
  | failure :: failures, _ => .error (.aggregate (failure :: failures))

theorem Verified.result_eq {prober : Bool} {registrations : List Registration}
    {application : Application} {verifying : Transcript calls} {result : Except Failure Unit}
    (verified : Verified prober registrations application verifying result)
    {missing : List String}
    (told : ∀ reply, ⟨.probe (groupVersions registrations), reply⟩ ∈ verifying → reply = missing) :
    result = verification prober application missing := by
  obtain ⟨failures, messages⟩ := application
  unfold verification
  cases verified with
  | failed some =>
      cases failures with
      | nil => exact absurd rfl some
      | cons failure failures => rfl
  | unserved none some =>
      cases none
      cases messages with
      | nil => exact absurd rfl some
      | cons message messages => rfl
  | unprobed none served unwired =>
      cases none
      cases served
      cases unwired
      rfl
  | probed found none served wired =>
      cases none
      cases served
      cases wired
      rw [told found (.head _)]
      rfl

/-- The order of the messages makes no difference. -/
theorem verification_perm (prober : Bool) (failures : List Failure) {messages others : List String}
    (order : others.Perm messages) (missing : List String) :
    verification prober ⟨failures, others⟩ missing =
      verification prober ⟨failures, messages⟩ missing := by
  unfold verification
  cases failures with
  | cons failure failures => rfl
  | nil =>
      cases messages with
      | nil => rw [order.eq_nil]
      | cons message messages =>
          cases others with
          | nil => cases order.symm.eq_nil
          | cons other others => exact congrArg Except.error (unavailable_perm order)

/-- Equal answers of the gate and applies that went alike come to the same outcomes, if discovery
answers as before. -/
theorem Gated.agree {prober : Bool} {enabled others : List Registration} {deletion : Option Failure}
    {answer : Except Failure Bool} {attempts attemptsAgain : List Attempt}
    {verifying verifyingAgain : Transcript calls} {outcomes outcomesAgain : Outcomes}
    (once : Gated prober enabled deletion answer attempts verifying outcomes)
    (again : Gated prober others deletion answer attemptsAgain verifyingAgain outcomesAgain)
    (failures : attemptsAgain.filterMap Attempt.failure = attempts.filterMap Attempt.failure)
    (messages : (attemptsAgain.filterMap Attempt.message).Perm (attempts.filterMap Attempt.message))
    {missing : List String}
    (told : ∀ reply, ⟨.probe (groupVersions enabled), reply⟩ ∈ verifying → reply = missing)
    (toldAgain : ∀ reply, ⟨.probe (groupVersions others), reply⟩ ∈ verifyingAgain →
      reply = missing) :
    outcomesAgain = outcomes := by
  cases once with
  | failed failure =>
      cases again
      rfl
  | unready =>
      cases again
      rfl
  | ready registered verified =>
      cases again with
      | ready registeredAgain verifiedAgain =>
          rw [verified.result_eq told, verifiedAgain.result_eq toldAgain, failures,
            verification_perm prober _ messages]

/-- What was written and the replies, without the times. -/
def untimed (writings : List (List Condition × Except Failure Unit)) :
    List (List Condition × Except Failure Unit) :=
  writings.map fun writing => (writing.1.map Condition.untimed, writing.2)

theorem Outcomes.untimed_degraded (outcomes : Outcomes) (now : String) :
    (outcomes.degraded now).untimed = outcomes.degraded "" := by
  unfold Outcomes.degraded
  cases outcomes.deletion <;> rfl

theorem Outcomes.untimed_available (outcomes : Outcomes) (now : String) :
    (outcomes.available now).untimed = outcomes.available "" := by
  unfold Outcomes.available
  dsimp only
  split
  · rfl
  · cases outcomes.application <;> cases outcomes.check <;> rfl

/-- What is reported, and the result, follow from the outcomes, the signal and how the report is
received. -/
theorem Reported.eq_of_told {outcomes : Outcomes} {reporting : Transcript calls}
    {result : Except Failure Unit} (reported : Reported outcomes reporting result)
    (told : ∀ exchange ∈ reporting, collaborators.Replies exchange) :
    let suppressed := outcomes.failed && collaborators.reply .isShuttingDown
    let conditions := [outcomes.degraded "", outcomes.available ""]
    let reply := collaborators.reply (.writeConditions conditions)
    result = (if suppressed then .error outcomes.shutdownFailure else outcomes.resultAfter reply) ∧
      untimed (writings reporting) = if suppressed then [] else [(conditions, reply)] := by
  intro suppressed conditions reply
  cases reported with
  | suppressed failed =>
      have on : collaborators.reply .isShuttingDown = true := told _ (.head _)
      have kept : suppressed = true := by simp [suppressed, failed, on]
      rw [if_pos kept, if_pos kept]
      exact ⟨rfl, rfl⟩
  | written degradedAt availableAt received =>
      have going : ¬ suppressed = true := by
        intro kept
        obtain ⟨failed, on⟩ : outcomes.failed = true ∧ collaborators.reply .isShuttingDown = true :=
          (Bool.and_eq_true _ _).mp kept
        have off : collaborators.reply .isShuttingDown = false :=
          told ⟨.isShuttingDown, false⟩ (by simp [Outcomes.inquiry, failed])
        cases on.symm.trans off
      have untimedAt : [outcomes.degraded degradedAt, outcomes.available availableAt].map
          Condition.untimed = conditions := by
        rw [List.map_cons, List.map_singleton, outcomes.untimed_degraded,
          outcomes.untimed_available]
      have replied : reply = received := by
        have asked : collaborators.reply (.writeConditions
            [outcomes.degraded degradedAt, outcomes.available availableAt]) = received :=
          told ⟨.writeConditions _, received⟩ (by simp [Outcomes.writing])
        rw [← asked, ← collaborators.untimed, untimedAt]
      have written : writings (outcomes.inquiry ++
          outcomes.writing degradedAt availableAt received) =
            [([outcomes.degraded degradedAt, outcomes.available availableAt], received)] := by
        unfold Outcomes.inquiry
        split <;> rfl
      rw [if_neg going, if_neg going, written, replied]
      exact ⟨rfl, congrArg (fun told => [(told, received)]) untimedAt⟩

/-! ## Two cycles -/

theorem filterMap_eq_of_map_eq {κ α β : Type} {keys : List κ} {first second : κ → α}
    {values others : List α} {select : α → Option β} (valuesEq : values = keys.map first)
    (othersEq : others = keys.map second)
    (same : ∀ key ∈ keys, select (second key) = select (first key)) :
    others.filterMap select = values.filterMap select := by
  rw [valuesEq, othersEq, List.filterMap_map, List.filterMap_map]
  exact List.filterMap_congr same

theorem Attempt.eq_of_mem_transcript {attempt : Attempt} {desired : Registration}
    {reply : Except Failure Applied} (member : ⟨.apply desired, reply⟩ ∈ attempt.transcript) :
    desired = attempt.registration.withDefaults ∧ attempt.reply = reply := by
  obtain ⟨registration, given⟩ := attempt
  cases given <;> simpa [Attempt.transcript, eq_comm] using member

namespace ManagedRun

variable {prober : Bool} {lists other : ManagedRegistrations}

/-- A name that is only disabled is left as its deletion has left it. -/
theorem get?_after_of_disabled (run : ManagedRun prober lists.resolve) {store : World.Store}
    (served : store.Serves run.exchanges) {name : String}
    (disabled : name ∈ run.deletions.map Deletion.name) :
    (store.after run.exchanges).get? name = store.afterDelete name (store.get? name) := by
  obtain ⟨deleting, applying, ended⟩ := run.serves_exchanges served
  have deleted : (store.after (run.part .deletion)).get? name = _ :=
    (World.Store.serves_deletions run.nodup_names_deletions deleting).2 name
  have applied : ((store.after (run.part .deletion)).after (run.part .application)).get? name = _ :=
    (World.Store.serves_attempts run.nodup_names_attempts applying).2 name
  have unapplied : Registration.first? (run.attempts.map Attempt.registration) name = none := by
    rw [← Option.not_isSome_iff_eq_none, Registration.first?_isSome_iff]
    intro attempted
    rw [run.names] at disabled
    exact lists.disjoint_names_resolve name disabled
      ((run.gated.registrations_sublist.map Registration.name).subset attempted)
  rw [ended, applied, unapplied, deleted, if_pos disabled]

theorem holds_after (run : ManagedRun prober lists.resolve) {store : World.Store}
    (served : store.Serves run.exchanges) :
    ∀ registration ∈ run.attempts.map Attempt.registration,
      (store.after run.exchanges).Holds registration.withDefaults := by
  rw [(run.serves_exchanges served).2.2]
  exact World.Store.holds_of_attempted _ run.nodup_names_attempts

theorem deletions_eq (run : ManagedRun prober lists.resolve) {store : World.Store}
    (served : store.Serves run.exchanges) :
    run.deletions = (lists.resolve.disabled.map Registration.name).map store.deletionOf := by
  rw [← run.names]
  exact (World.Store.serves_deletions run.nodup_names_deletions
    (run.serves_exchanges served).1).1

theorem attempts_eq (run : ManagedRun prober lists.resolve) {store : World.Store}
    (served : store.Serves run.exchanges) :
    run.attempts = (run.attempts.map Attempt.registration).map
      (store.after (run.part .deletion)).attemptOf :=
  (World.Store.serves_attempts run.nodup_names_attempts (run.serves_exchanges served).2.1).1

theorem repeats (once : ManagedRun prober lists.resolve) {store : World.Store}
    (served : store.Serves once.exchanges) :
    ∀ name ∈ lists.resolve.disabled.map Registration.name,
      (store.after once.exchanges).Repeats (store.deletionOf name)
        ((store.after once.exchanges).deletionOf name) := by
  intro name member
  rw [← once.names] at member
  exact (store.alike_after once.exchanges).repeats (once.get?_after_of_disabled served member)

/-- The deletions of a cycle that comes after another one with the same disabled registrations
change nothing. -/
theorem undeleted (once : ManagedRun prober lists.resolve) {store : World.Store}
    (served : store.Serves once.exchanges) {again : ManagedRun prober other.resolve}
    (servedAgain : (store.after once.exchanges).Serves again.exchanges)
    (disabled : other.resolve.disabled = lists.resolve.disabled) :
    (store.after once.exchanges).after (again.part .deletion) = store.after once.exchanges := by
  refine World.Store.after_flatMap_eq_self _ ?_
  rw [again.deletions_eq servedAgain, disabled]
  exact List.forall_mem_map.mpr fun name member => (once.repeats served name member).stable

/-- A cycle leaves the store alone if it comes after another one that has applied all that it
applies, with the same disabled registrations. -/
theorem after_eq_self (once : ManagedRun prober lists.resolve) {store : World.Store}
    (served : store.Serves once.exchanges) {again : ManagedRun prober other.resolve}
    (servedAgain : (store.after once.exchanges).Serves again.exchanges)
    (disabled : other.resolve.disabled = lists.resolve.disabled)
    (applied : again.attempts.map Attempt.registration ⊆ once.attempts.map Attempt.registration) :
    (store.after once.exchanges).after again.exchanges = store.after once.exchanges := by
  have attemptsAgain := again.attempts_eq servedAgain
  rw [(again.serves_exchanges servedAgain).2.2, once.undeleted served servedAgain disabled]
  rw [once.undeleted served servedAgain disabled] at attemptsAgain
  refine World.Store.after_flatMap_eq_self _ ?_
  rw [attemptsAgain]
  refine List.forall_mem_map.mpr fun registration member => ?_
  rw [World.Store.after_attempt]
  exact once.holds_after served registration (applied member)

/-- Attempts of two cycles fail alike and are complained of alike. -/
theorem attempts_alike (once : ManagedRun prober lists.resolve) {store : World.Store}
    (served : store.Serves once.exchanges) (again : ManagedRun prober other.resolve)
    (registration : Registration) :
    let first := (store.after (once.part .deletion)).attemptOf registration
    let last := ((store.after once.exchanges).after (again.part .deletion)).attemptOf registration
    last.failure = first.failure ∧ last.message = first.message := by
  have alike : (store.after (once.part .deletion)).Alike
      ((store.after once.exchanges).after (again.part .deletion)) := by
    rw [(once.serves_exchanges served).2.2]
    exact (World.Store.alike_after _ _).trans (World.Store.alike_after _ _)
  exact ⟨alike.failure_attemptOf registration, alike.message_attemptOf registration⟩

/-- The second of two cycles changes nothing, and is refused what the first one was refused. -/
structure Redone (store : World.Store) (once again : ManagedRun prober lists.resolve) : Prop where
  stable : store.after again.exchanges = store
  leftovers : again.deletions.filterMap Deletion.failure = once.deletions.filterMap Deletion.failure
  refusals : again.attempts.filterMap Attempt.failure = once.attempts.filterMap Attempt.failure
  complaints : again.attempts.filterMap Attempt.message = once.attempts.filterMap Attempt.message
  unchanged : ∀ desired applied, ⟨.apply desired, .ok applied⟩ ∈ again.exchanges →
    applied.changed = false
  refused : ∀ name reply, ⟨.delete name, reply⟩ ∈ again.exchanges →
    ∃ failure, ⟨.delete name, .error failure⟩ ∈ once.exchanges

theorem redone {once again : ManagedRun prober lists.resolve} {store : World.Store}
    (served : store.Serves once.exchanges)
    (servedAgain : (store.after once.exchanges).Serves again.exchanges)
    (answer : again.answer = once.answer) : Redone (store.after once.exchanges) once again := by
  have deletions := once.deletions_eq served
  have deletionsAgain := again.deletions_eq servedAgain
  have repeats := once.repeats served
  have registrations : again.attempts.map Attempt.registration =
      once.attempts.map Attempt.registration := by
    rw [again.gated.registrations_eq, once.gated.registrations_eq, answer]
  have attempts := once.attempts_eq served
  have attemptsAgain := again.attempts_eq servedAgain
  have holds := once.holds_after served
  have alike := once.attempts_alike served again
  have stable := once.after_eq_self served servedAgain rfl (registrations ▸ List.Subset.refl _)
  have undeleted := once.undeleted served servedAgain rfl
  rw [registrations, undeleted] at attemptsAgain
  rw [undeleted] at alike
  generalize store.after once.exchanges = later at *
  refine ⟨stable, filterMap_eq_of_map_eq deletions deletionsAgain fun name member =>
      (repeats name member).failure,
    filterMap_eq_of_map_eq attempts attemptsAgain fun registration _ => (alike registration).1,
    filterMap_eq_of_map_eq attempts attemptsAgain fun registration _ => (alike registration).2,
    ?_, ?_⟩
  · intro desired applied member
    have inside : _ ∈ again.attempts.flatMap Attempt.transcript :=
      (again.mem_exchanges_iff _).mp member
    rw [attemptsAgain] at inside
    obtain ⟨attempt, attempted, inside⟩ := List.mem_flatMap.mp inside
    obtain ⟨registration, registered, rfl⟩ := List.mem_map.mp attempted
    obtain ⟨rfl, replied⟩ := Attempt.eq_of_mem_transcript inside
    exact (holds registration registered).changed_eq_false replied
  · intro name reply member
    have inside : _ ∈ again.deletions.flatMap Deletion.transcript :=
      (again.mem_exchanges_iff _).mp member
    rw [deletionsAgain] at inside
    obtain ⟨deletion, deleted, inside⟩ := List.mem_flatMap.mp inside
    obtain ⟨taken, listed, rfl⟩ := List.mem_map.mp deleted
    obtain ⟨failure, refused⟩ := (repeats taken listed).refused name reply inside
    refine ⟨failure, (once.mem_exchanges_iff _).mpr ?_⟩
    have told : _ ∈ ((lists.resolve.disabled.map Registration.name).map store.deletionOf).flatMap
        Deletion.transcript := List.mem_flatMap.mpr ⟨_, List.mem_map_of_mem listed, refused⟩
    rwa [← deletions] at told

theorem answer_of_told (run : ManagedRun prober lists)
    (told : ∀ exchange ∈ run.exchanges, collaborators.Replies exchange) :
    run.answer = collaborators.reply (.check lists.enabled) := by
  have asked : collaborators.Replies ⟨.check lists.enabled, run.answer⟩ :=
    told _ ((run.mem_exchanges_iff _).mpr (.head _))
  exact asked.symm

/-- Two cycles that met the same failures, with collaborators that answer alike, have the same result
and report the same. -/
theorem Redone.reported {once again : ManagedRun prober lists.resolve} {store : World.Store}
    (redone : Redone store once again) (answer : again.answer = once.answer)
    (told : ∀ exchange ∈ once.exchanges, collaborators.Replies exchange)
    (toldAgain : ∀ exchange ∈ again.exchanges, collaborators.Replies exchange) :
    again.result = once.result ∧
      untimed (writings again.transcript) = untimed (writings once.transcript) := by
  have part : ∀ {run : ManagedRun prober lists.resolve} (phase : Phase),
      (∀ exchange ∈ run.exchanges, collaborators.Replies exchange) →
        ∀ exchange ∈ run.part phase, collaborators.Replies exchange := by
    intro run phase told exchange member
    refine told exchange ((run.mem_exchanges_iff exchange).mpr ?_)
    rwa [run.within_part phase exchange member]
  have outcomes : again.outcomes = once.outcomes := by
    have gated := again.gated
    rw [redone.leftovers, answer] at gated
    have missing : ∀ {run : ManagedRun prober lists.resolve},
        (∀ exchange ∈ run.exchanges, collaborators.Replies exchange) → ∀ reply,
          ⟨.probe (groupVersions lists.resolve.enabled), reply⟩ ∈ run.verifying →
            reply = collaborators.reply (.probe (groupVersions lists.resolve.enabled)) :=
      fun told reply member => (part .verification told ⟨.probe _, reply⟩ member).symm
    exact once.gated.agree gated redone.refusals (redone.complaints ▸ List.Perm.refl _)
      (missing told) (missing toldAgain)
  have reported := once.reported.eq_of_told (part .report told)
  have reportedAgain := again.reported.eq_of_told (part .report toldAgain)
  rw [outcomes] at reportedAgain
  rw [again.writings_transcript, once.writings_transcript]
  exact ⟨reportedAgain.1.trans reported.1.symm, reportedAgain.2.trans reported.2.symm⟩

end ManagedRun

/-- A cycle that collaborators have told to manage fails to get its lists or is a managed run. -/
theorem Course.eq_of_told {prober : Bool} {transcript : Transcript calls}
    {result : Except Failure Unit} (course : Course prober transcript result)
    (managed : collaborators.reply .readMode = .ok .managed)
    (told : ∀ exchange ∈ transcript, collaborators.Replies exchange) :
    match collaborators.reply .listManaged with
    | .error failure =>
        transcript = [⟨.readMode, .ok .managed⟩, ⟨.listManaged, .error failure⟩] ∧
          result = .error failure
    | .ok lists =>
        ∃ run : ManagedRun prober lists.resolve, transcript = run.transcript ∧
          result = run.result := by
  have instructed : ∀ {reply : Except Failure ManagementState} {rest : Transcript calls},
      (∀ exchange ∈ (⟨.readMode, reply⟩ :: rest : Transcript calls),
        collaborators.Replies exchange) → .ok .managed = reply :=
    fun told => managed.symm.trans (told _ (.head _))
  cases course with
  | unread failure => cases instructed told
  | unmanaged => cases instructed told
  | unknown name => cases instructed told
  | unlisted acting failure =>
      have listed : collaborators.reply .listManaged = .error failure :=
        told _ (.tail _ (.head _))
      cases instructed told
      rw [listed]
      exact ⟨rfl, rfl⟩
  | removed names => cases instructed told
  | @managed lists run =>
      have listed : collaborators.reply .listManaged = .ok lists := told _ (.tail _ (.head _))
      rw [listed]
      exact ⟨run, rfl, rfl⟩

/-- The second of two cycles leaves the registrations as they are, and tells what the first one has
told. -/
structure Repeated (first last : Performance (World.Store × Nat)) : Prop where
  store : last.state.1 = first.state.1
  unchanged : ∀ desired applied, ⟨.apply desired, .ok applied⟩ ∈ last.transcript →
    applied.changed = false
  refused : ∀ name reply, ⟨.delete name, reply⟩ ∈ last.transcript →
    ∃ failure, ⟨.delete name, .error failure⟩ ∈ first.transcript
  writings : untimed (writings last.transcript) = untimed (writings first.transcript)
  result : last.result = first.result

/-- Whatever a store holds and refuses, whatever the lists repeat and share, and whatever the other
collaborators answer, as long as they stay with it: a second managed cycle does nothing that the
first one has not done, and it reports the same. -/
theorem sync_idempotent (collaborators : Collaborators)
    (managed : collaborators.reply .readMode = .ok .managed) (clock : Nat → String)
    (prober : Bool) (start : World.Store × Nat) :
    Repeated (perform (collaborators.answer clock) prober start)
      (perform (collaborators.answer clock) prober
        (perform (collaborators.answer clock) prober start).state) := by
  have followed : ∀ state, Follows (collaborators.answer clock) state
      (perform (collaborators.answer clock) prober state).transcript
      (perform (collaborators.answer clock) prober state).state :=
    Interaction.follows_transcriptIn (sync prober)
  have course := course_perform (collaborators.answer clock) prober start
  obtain ⟨told, served, ended⟩ := Collaborators.serves_of_follows (followed start)
  generalize perform (collaborators.answer clock) prober start = first at *
  have courseAgain := course_perform (collaborators.answer clock) prober first.state
  obtain ⟨toldAgain, servedAgain, endedAgain⟩ :=
    Collaborators.serves_of_follows (followed first.state)
  generalize perform (collaborators.answer clock) prober first.state = last at *
  have onceTold := course.eq_of_told managed told
  have againTold := courseAgain.eq_of_told managed toldAgain
  cases listed : collaborators.reply .listManaged with
  | error failure =>
      rw [listed] at onceTold againTold
      rw [againTold.1] at endedAgain
      refine ⟨endedAgain, ?_, ?_, ?_, againTold.2.trans onceTold.2.symm⟩
      · simp [againTold.1]
      · simp [againTold.1]
      · rw [againTold.1, onceTold.1]
  | ok lists =>
      rw [listed] at onceTold againTold
      obtain ⟨once, transcript, result⟩ := onceTold
      obtain ⟨again, transcriptAgain, resultAgain⟩ := againTold
      rw [transcript] at told served ended
      rw [transcriptAgain] at toldAgain servedAgain endedAgain
      have ended : first.state.1 = start.1.after once.exchanges := ended
      have endedAgain : last.state.1 = first.state.1.after again.exchanges := endedAgain
      have toldLater : ∀ exchange ∈ once.exchanges, collaborators.Replies exchange :=
        fun exchange member => told exchange (.tail _ (.tail _ member))
      have toldLaterAgain : ∀ exchange ∈ again.exchanges, collaborators.Replies exchange :=
        fun exchange member => toldAgain exchange (.tail _ (.tail _ member))
      have answer : again.answer = once.answer :=
        (again.answer_of_told toldLaterAgain).trans (once.answer_of_told toldLater).symm
      have servedLater : start.1.Serves once.exchanges := served.2.2
      have servedLaterAgain : first.state.1.Serves again.exchanges := servedAgain.2.2
      have redone : ManagedRun.Redone first.state.1 once again := by
        rw [ended] at servedLaterAgain ⊢
        exact ManagedRun.redone servedLater servedLaterAgain answer
      obtain ⟨results, written⟩ := redone.reported answer toldLater toldLaterAgain
      refine ⟨endedAgain.trans redone.stable, ?_, ?_, ?_, ?_⟩
      · intro desired applied member
        rw [transcriptAgain] at member
        exact redone.unchanged desired applied
          (again.mem_exchanges_of_mem member (by simp [Call.phase]))
      · intro name reply member
        rw [transcriptAgain] at member
        obtain ⟨failure, refused⟩ :=
          redone.refused name reply (again.mem_exchanges_of_mem member (by simp [Call.phase]))
        rw [transcript]
        exact ⟨failure, .tail _ (.tail _ refused)⟩
      · rw [transcriptAgain, transcript, written]
      · rw [resultAgain, result, results]

/-- Collaborators that have two old versions make way for a new one. -/
def sampleCollaborators : Collaborators where
  reply
    | .readMode => .ok .managed
    | .listManaged => .ok World.sampleLists
    | .cached _ => none
    | .delete _ | .writeConditions _ => .ok ()
    | .check _ => .ok true
    | .apply desired => .ok ⟨desired, true⟩
    | .probe _ => []
    | .isShuttingDown => false
    | .now => ""
    | .warn _ _ | .observe _ => ()
  untimed _ := rfl

/-- The delete that was refused is asked for once more, and what was applied is applied once more;
the store stays as it is. -/
theorem sync_idempotent_sample :
    let answer := sampleCollaborators.answer fun ticks => if ticks < 2 then "10:00" else "10:05"
    let first := perform answer true (World.sampleWorld.store, 0)
    let last := perform answer true first.state
    Repeated first last ∧ first.state.1.get? "v1beta1.metrics.example.io" = none ∧
      mutations first.transcript = ["v1alpha1.metrics.example.io", "v1beta1.metrics.example.io",
        "v1.metrics.example.io"] ∧
      mutations last.transcript = ["v1alpha1.metrics.example.io", "v1.metrics.example.io"] := by
  intro answer first last
  exact ⟨sync_idempotent sampleCollaborators rfl _ true _, by decide, by decide, by decide⟩

end Cycle

end Registrar
