import Registrar.Cycle.Basic
import Registrar.Proofs.Transcript
/-!
# The phases of a cycle

Each phase of a cycle treats its registrations one after the other. What happens to one of them is
a value here, a deletion or an attempt to apply, with the exchanges it consists of and what it
contributes to the outcome. The runs of a phase are then just the lists of these values, one for
each registration in order: no reply ends a phase early.
-/

set_option autoImplicit false

namespace Registrar.Cycle

theorem yields_call_iff (question : Call) (transcript : Transcript calls)
    (reply : question.Reply) :
    (call question).Yields transcript reply ↔ transcript = [⟨question, reply⟩] :=
  @Interaction.yields_request_iff calls question transcript reply

theorem yields_call_bind_iff {α : Type} (question : Call) (next : question.Reply → Program α)
    (transcript : Transcript calls) (result : α) :
    (call question >>= next).Yields transcript result ↔
      ∃ reply rest, transcript = ⟨question, reply⟩ :: rest ∧ (next reply).Yields rest result :=
  Interaction.yields_request_bind_iff question next transcript result

/-! ## Deletions -/

/-- What happens to a registration that is to be deleted. -/
inductive Deletion where
  /-- The cache holds none. -/
  | absent (name : String)
  /-- The cached one is being deleted already. -/
  | underway (name : String) (existing : Registration) (deleting : existing.isDeleting = true)
  /-- The cached one is asked to go, and the store replies. -/
  | issued (name : String) (existing : Registration) (live : existing.isDeleting = false)
      (reply : Except Failure Unit)

namespace Deletion

/-- The name that is to go. -/
def name : Deletion → String
  | absent name => name
  | underway name _ _ => name
  | issued name _ _ _ => name

/-- The exchanges of a deletion. -/
def transcript : Deletion → Transcript calls
  | absent name => [⟨.cached name, none⟩]
  | underway name existing _ => [⟨.cached name, some existing⟩]
  | issued name existing _ reply =>
      [⟨.cached name, some existing⟩, ⟨.observe .delete, ()⟩, ⟨.delete name, reply⟩]

/-- What a deletion contributes to the failures of its phase. -/
def failure : Deletion → Option Failure
  | issued _ _ _ (.error failure) => if failure.isNotFound then none else some failure
  | _ => none

end Deletion

theorem deleteOne_yields_iff (name : String) (transcript : Transcript calls)
    (failure : Option Failure) :
    (deleteOne name).Yields transcript failure ↔
      ∃ deletion : Deletion, deletion.name = name ∧ transcript = deletion.transcript ∧
        failure = deletion.failure := by
  unfold deleteOne
  rw [yields_call_bind_iff]
  constructor
  · intro ran
    obtain ⟨reply, rest, rfl, run⟩ := ran
    cases reply with
    | none =>
        obtain ⟨rfl, rfl⟩ := (Interaction.yields_done_iff _ _ _).mp run
        exact ⟨.absent name, rfl, rfl, rfl⟩
    | some existing =>
        cases state : existing.isDeleting with
        | true =>
            simp only [state, if_true] at run
            obtain ⟨rfl, rfl⟩ := (Interaction.yields_done_iff _ _ _).mp run
            exact ⟨.underway name existing state, rfl, rfl, rfl⟩
        | false =>
            simp only [state, Bool.false_eq_true, if_false] at run
            obtain ⟨_, _, rfl, counted⟩ := (yields_call_bind_iff (.observe .delete) _ _ _).mp run
            obtain ⟨reply, _, rfl, ended⟩ := (yields_call_bind_iff (.delete name) _ _ _).mp counted
            refine ⟨.issued name existing state reply, rfl, ?_⟩
            cases reply <;> obtain ⟨rfl, rfl⟩ := (Interaction.yields_done_iff _ _ _).mp ended <;>
              exact ⟨rfl, rfl⟩
  · intro assembled
    obtain ⟨deletion, rfl, rfl, rfl⟩ := assembled
    cases deletion with
    | absent name => exact ⟨none, [], rfl, .done none⟩
    | underway name existing deleting =>
        refine ⟨some existing, [], rfl, ?_⟩
        simp only [deleting, if_true]
        exact .done none
    | issued name existing live reply =>
        refine ⟨some existing, [⟨.observe .delete, ()⟩, ⟨.delete name, reply⟩], rfl, ?_⟩
        simp only [live, Bool.false_eq_true, if_false]
        refine (yields_call_bind_iff (.observe .delete) _ _ _).mpr ⟨(), _, rfl, ?_⟩
        refine (yields_call_bind_iff (.delete name) _ _ _).mpr ⟨reply, [], rfl, ?_⟩
        cases reply <;> exact .done _

/-- A phase of deletions takes up every registration in order, and none of them twice. -/
theorem deleteAll_yields_iff (registrations : List Registration) (transcript : Transcript calls)
    (failures : List Failure) :
    (deleteAll registrations).Yields transcript failures ↔
      ∃ deletions : List Deletion,
        deletions.map Deletion.name = registrations.map Registration.name ∧
        transcript = deletions.flatMap Deletion.transcript ∧
        failures = deletions.filterMap Deletion.failure := by
  have taken : ∀ registration rest, deleteAll (registration :: rest) =
      deleteOne registration.name >>= fun failure => deleteAll rest >>= fun failures =>
        .done (failure.toList ++ failures) := fun _ _ => rfl
  rw [Interaction.yields_each_iff taken rfl fun registration =>
    deleteOne_yields_iff registration.name]
  simp only [Interaction.foldr_toList_append]

theorem syncDisabled_yields_iff (registrations : List Registration)
    (transcript : Transcript calls) (result : Except Failure Unit) :
    (syncDisabled registrations).Yields transcript result ↔
      ∃ deletions : List Deletion,
        deletions.map Deletion.name = registrations.map Registration.name ∧
        transcript = deletions.flatMap Deletion.transcript ∧
        result = aggregate (deletions.filterMap Deletion.failure) := by
  simp only [syncDisabled, Interaction.yields_bind_iff, deleteAll_yields_iff,
    Interaction.pure_eq_done, Interaction.yields_done_iff]
  constructor
  · intro ran
    obtain ⟨_, _, _, rfl, ⟨deletions, names, rfl, rfl⟩, rfl, rfl⟩ := ran
    exact ⟨deletions, names, by simp, rfl⟩
  · intro assembled
    obtain ⟨deletions, names, rfl, rfl⟩ := assembled
    exact ⟨_, _, [], by simp, ⟨deletions, names, rfl, rfl⟩, rfl, rfl⟩

/-! ## Applies -/

/-- What happens to a registration that is to be applied: the store replies. -/
structure Attempt where
  registration : Registration
  reply : Except Failure Applied

namespace Attempt

/-- The exchanges of an attempt. -/
def transcript (attempt : Attempt) : Transcript calls :=
  ⟨.apply attempt.registration.withDefaults, attempt.reply⟩ ::
    match attempt.reply with
    | .error _ => []
    | .ok applied => [⟨.observe (.apply applied.changed), ()⟩]

/-- What an attempt contributes to the failures of its phase. -/
def failure (attempt : Attempt) : Option Failure :=
  match attempt.reply with
  | .error failure => some failure
  | .ok _ => none

/-- What an attempt contributes to the messages on what is not served. -/
def message (attempt : Attempt) : Option String :=
  match attempt.reply with
  | .error _ => none
  | .ok applied => unavailableMessage? applied.object

end Attempt

theorem applyOne_yields_iff (registration : Registration) (transcript : Transcript calls)
    (application : Application) :
    (applyOne registration).Yields transcript application ↔
      ∃ attempt : Attempt, attempt.registration = registration ∧
        transcript = attempt.transcript ∧
        application = ⟨attempt.failure.toList, attempt.message.toList⟩ := by
  unfold applyOne
  rw [yields_call_bind_iff]
  constructor
  · intro ran
    obtain ⟨reply, rest, rfl, run⟩ := ran
    refine ⟨⟨registration, reply⟩, rfl, ?_⟩
    cases reply with
    | error failure =>
        obtain ⟨rfl, rfl⟩ := (Interaction.yields_done_iff _ _ _).mp run
        exact ⟨rfl, rfl⟩
    | ok applied =>
        obtain ⟨_, _, rfl, ended⟩ :=
          (yields_call_bind_iff (.observe (.apply applied.changed)) _ _ _).mp run
        obtain ⟨rfl, rfl⟩ := (Interaction.yields_done_iff _ _ _).mp ended
        exact ⟨rfl, rfl⟩
  · intro assembled
    obtain ⟨⟨registration, reply⟩, rfl, rfl, rfl⟩ := assembled
    cases reply with
    | error failure => exact ⟨.error failure, [], rfl, .done _⟩
    | ok applied =>
        refine ⟨.ok applied, [⟨.observe (.apply applied.changed), ()⟩], rfl, ?_⟩
        exact (yields_call_bind_iff (.observe (.apply applied.changed)) _ _ _).mpr
          ⟨(), [], rfl, .done _⟩

/-- A phase of applies takes up every registration in order, and none of them twice. -/
theorem applyAll_yields_iff (registrations : List Registration) (transcript : Transcript calls)
    (application : Application) :
    (applyAll registrations).Yields transcript application ↔
      ∃ attempts : List Attempt, attempts.map Attempt.registration = registrations ∧
        transcript = attempts.flatMap Attempt.transcript ∧
        application =
          ⟨attempts.filterMap Attempt.failure, attempts.filterMap Attempt.message⟩ := by
  have joined : ∀ attempts : List Attempt,
      attempts.foldr (fun attempt others => (⟨attempt.failure.toList ++ others.failures,
        attempt.message.toList ++ others.messages⟩ : Application)) {} =
      ⟨attempts.filterMap Attempt.failure, attempts.filterMap Attempt.message⟩ := by
    intro attempts
    induction attempts with
    | nil => rfl
    | cons attempt rest ih =>
        cases failed : attempt.failure <;> cases told : attempt.message <;> simp [ih, failed, told]
  have taken : ∀ registration rest, applyAll (registration :: rest) =
      applyOne registration >>= fun first => applyAll rest >>= fun others =>
        .done ⟨first.failures ++ others.failures, first.messages ++ others.messages⟩ :=
    fun _ _ => rfl
  rw [Interaction.yields_each_iff taken rfl applyOne_yields_iff]
  simp only [joined, List.map_id']

end Registrar.Cycle
