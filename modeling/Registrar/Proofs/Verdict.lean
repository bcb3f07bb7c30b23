import Registrar.Proofs.ByteOrder
import Registrar.Proofs.Cycle.Order
import Registrar.Proofs.Reporting
/-!
# The verdict on the enabled registrations

All enabled registrations are applied, whatever the replies are. Then one of three things decides: a
refused apply, or else an applied registration that is not served, or else what discovery lacks. Each
of them hides those that come after it, and messages are sorted before they are told.
-/

set_option autoImplicit false

namespace Registrar

open Text (bytes)

/-- One version comes before another one: by its group, and within a group by its name. -/
def GroupVersion.Precedes (left right : GroupVersion) : Prop :=
  bytes left.group < bytes right.group ∨
    left.group = right.group ∧ bytes left.version < bytes right.version

theorem GroupVersion.precedes_iff (left right : GroupVersion) :
    left.Precedes right ↔ compare left right = .lt :=
  (Text.compare_then_compare_eq_lt_iff _ _ _ _).symm

namespace Cycle

/-! ## What is not served -/

/-- The returned objects that are not served, each with its first condition on that. -/
def unserved (transcript : Transcript calls) : List (Registration × ServedCondition) :=
  (applications transcript).filterMap fun application =>
    match application.2 with
    | .error _ => none
    | .ok applied =>
        (applied.object.availableCondition.filter fun condition => condition.status ≠ .true).map
          fun condition => (applied.object, condition)

def unservedMessage (entry : Registration × ServedCondition) : String :=
  "apiservices.apiregistration.k8s.io/" ++ entry.1.name ++ ": not available: " ++ entry.2.message

/-- The failure that tells messages, one to a line and in the order of their bytes. -/
def Tells (messages : List String) (failure : Failure) : Prop :=
  ∃ lines : List String, lines.Perm messages ∧
    lines.Pairwise (fun left right => bytes left ≤ bytes right) ∧
    failure = .unavailable ("\n".intercalate lines)

theorem complaints_eq_map_unserved (transcript : Transcript calls) :
    complaints transcript = (unserved transcript).map unservedMessage := by
  unfold complaints unserved
  rw [List.map_filterMap]
  refine List.filterMap_congr fun application _ => ?_
  obtain ⟨desired, reply⟩ := application
  cases reply with
  | error failure => rfl
  | ok applied =>
      dsimp only
      unfold unavailableMessage?
      cases applied.object.availableCondition with
      | none => rfl
      | some condition =>
          by_cases served : condition.status = .true
          · simp [served]
          · rw [Option.filter_some_pos (by simpa using served)]
            exact if_neg served

theorem mem_unserved (transcript : Transcript calls) (object : Registration)
    (condition : ServedCondition) :
    (object, condition) ∈ unserved transcript ↔
      ∃ desired applied, ⟨.apply desired, .ok applied⟩ ∈ transcript ∧ applied.object = object ∧
        object.FirstAvailable condition ∧ condition.status ≠ .true := by
  unfold unserved
  rw [List.mem_filterMap, ← Registration.availableCondition_eq_some_iff]
  constructor
  · rintro ⟨⟨desired, reply⟩, member, told⟩
    cases reply with
    | error failure => cases told
    | ok applied =>
        obtain ⟨other, kept, same⟩ := Option.map_eq_some_iff.mp told
        obtain ⟨rfl, rfl⟩ := Prod.mk.inj same
        obtain ⟨first, failing⟩ := Option.filter_eq_some_iff.mp kept
        exact ⟨desired, applied, (mem_applications _ _ _).mp member, rfl, first,
          of_decide_eq_true failing⟩
  · rintro ⟨desired, applied, member, rfl, first, failing⟩
    refine ⟨(desired, .ok applied), (mem_applications _ _ _).mpr member, ?_⟩
    dsimp only
    rw [first, Option.filter_some_pos (by simpa using failing)]
    rfl

theorem tells_unavailable (messages : List String) : Tells messages (unavailable messages) := by
  refine ⟨_, List.mergeSort_perm _ _, (pairwise_mergeSort_texts messages).imp ?_, rfl⟩
  intro left right ordered
  exact (Text.bytes_le_iff left right).mpr (of_decide_eq_true ordered)

theorem tells_of_verdict {messages : List String} (some : messages ≠ []) :
    ∃ failure, verdict messages = .error failure ∧ Tells messages failure := by
  cases messages with
  | nil => exact absurd rfl some
  | cons message rest => exact ⟨_, rfl, tells_unavailable _⟩

theorem groupVersions_increasing (registrations : List Registration) :
    (groupVersions registrations).Pairwise GroupVersion.Precedes := by
  refine List.Pairwise.imp ?_ (Sorted.pairwise_ofList _)
  intro left right less
  exact (left.precedes_iff right).mpr less

theorem mem_groupVersions (registrations : List Registration) (version : GroupVersion) :
    version ∈ groupVersions registrations ↔
      ∃ registration ∈ registrations, registration.groupVersion = version := by
  unfold groupVersions
  rw [Sorted.mem_ofList fun left right => Std.LawfulEqCmp.eq_of_compare, List.mem_map]

/-! ## The verdict -/

/-- What applying registrations does and tells. -/
structure Verdict (prober : Bool) (registrations : List Registration)
    (transcript : Transcript calls) (result : Except Failure Unit) : Prop where
  /-- Each registration is applied once, whatever the replies to others are. -/
  applied : (applications transcript).map Prod.fst = registrations.map Registration.withDefaults
  /-- There are no other calls than applies, their counts and the question to discovery. -/
  within : ∀ exchange ∈ transcript,
    exchange.question.phase = .application ∨ exchange.question.phase = .verification
  /-- What is not served: what came back with a first condition that says so. -/
  missed : ∀ object condition, (object, condition) ∈ unserved transcript ↔
    ∃ desired applied, ⟨.apply desired, .ok applied⟩ ∈ transcript ∧ applied.object = object ∧
      object.FirstAvailable condition ∧ condition.status ≠ .true
  refused : refusals transcript ≠ [] →
    result = .error (.aggregate (refusals transcript)) ∧ discoveries transcript = []
  unavailable : refusals transcript = [] → unserved transcript ≠ [] →
    (∃ failure, result = .error failure ∧
      Tells ((unserved transcript).map unservedMessage) failure) ∧
    discoveries transcript = []
  probed : refusals transcript = [] → unserved transcript = [] → prober = true →
    ∃ versions missing, discoveries transcript = [(versions, missing)] ∧
      versions.Pairwise GroupVersion.Precedes ∧
      (∀ version, version ∈ versions ↔
        ∃ registration ∈ registrations, registration.groupVersion = version) ∧
      (missing = [] → result = .ok ()) ∧
      (missing ≠ [] → ∃ failure, result = .error failure ∧ Tells missing failure)
  unprobed : refusals transcript = [] → unserved transcript = [] → prober = false →
    discoveries transcript = [] ∧ result = .ok ()

section

variable {verifying : Transcript calls}

theorem applications_append (attempts : List Attempt) (later : Within .verification verifying) :
    applications (attempts.flatMap Attempt.transcript ++ verifying) =
      attempts.map fun attempt => (attempt.registration.withDefaults, attempt.reply) :=
  (application.found_append_of_elsewhere _ (later.ne (by decide))).trans
    (applications_attempts attempts)

theorem refusals_append (attempts : List Attempt) (later : Within .verification verifying) :
    refusals (attempts.flatMap Attempt.transcript ++ verifying) =
      attempts.filterMap Attempt.failure := by
  rw [refusals, applications_append attempts later, List.filterMap_map]
  rfl

theorem complaints_append (attempts : List Attempt) (later : Within .verification verifying) :
    complaints (attempts.flatMap Attempt.transcript ++ verifying) =
      attempts.filterMap Attempt.message := by
  rw [complaints, applications_append attempts later, List.filterMap_map]
  rfl

theorem discoveries_append (attempts : List Attempt) (verifying : Transcript calls) :
    discoveries (attempts.flatMap Attempt.transcript ++ verifying) = discoveries verifying := by
  have applying := Within.flatMap Attempt.within attempts
  rw [discoveries, Evidence.found_append, discovery.found_eq_nil (applying.ne (by decide))]
  rfl

end

/-- The course of events, told from what the transcript holds. -/
theorem verified_of_yields {prober : Bool} {registrations : List Registration}
    {transcript : Transcript calls} {result : Except Failure Unit}
    (yields : (syncEnabled prober registrations).Yields transcript result) :
    (applications transcript).map Prod.fst = registrations.map Registration.withDefaults ∧
    (∀ exchange ∈ transcript,
      exchange.question.phase = .application ∨ exchange.question.phase = .verification) ∧
    ∃ verifying, discoveries transcript = discoveries verifying ∧
      Verified prober registrations ⟨refusals transcript, (unserved transcript).map unservedMessage⟩
        verifying result := by
  obtain ⟨attempts, verifying, registered, rfl, verified⟩ :=
    (syncEnabled_yields_iff _ _ _ _).mp yields
  have later := verified.within
  refine ⟨?_, fun exchange member => ?_, verifying, discoveries_append attempts verifying, ?_⟩
  · rw [applications_append attempts later, List.map_map, ← registered, List.map_map]
    rfl
  · rcases List.mem_append.mp member with member | member
    · exact .inl (Within.flatMap Attempt.within attempts exchange member)
    · exact .inr (later exchange member)
  · rw [← complaints_eq_map_unserved, refusals_append attempts later,
      complaints_append attempts later]
    exact verified

theorem verdict_of_yields {prober : Bool} {registrations : List Registration}
    {transcript : Transcript calls} {result : Except Failure Unit}
    (yields : (syncEnabled prober registrations).Yields transcript result) :
    Verdict prober registrations transcript result := by
  obtain ⟨each, only, verifying, asked, verified⟩ := verified_of_yields yields
  cases verified with
  | failed some =>
      exact
        { applied := each
          within := only
          missed := mem_unserved transcript
          refused := fun _ => ⟨rfl, asked⟩
          unavailable := fun none => absurd none some
          probed := fun none => absurd none some
          unprobed := fun none => absurd none some }
  | unserved none some =>
      have complained := mt List.map_eq_nil_iff.mpr some
      exact
        { applied := each
          within := only
          missed := mem_unserved transcript
          refused := absurd none
          unavailable := fun _ _ => ⟨⟨_, rfl, tells_unavailable _⟩, asked⟩
          probed := fun _ served => absurd served complained
          unprobed := fun _ served => absurd served complained }
  | unprobed none served unwired =>
      have uncomplained := List.map_eq_nil_iff.mp served
      exact
        { applied := each
          within := only
          missed := mem_unserved transcript
          refused := absurd none
          unavailable := fun _ => absurd uncomplained
          probed := fun _ _ wired => absurd wired (by simp [unwired])
          unprobed := fun _ _ _ => ⟨asked, rfl⟩ }
  | probed missing none served wired =>
      have uncomplained := List.map_eq_nil_iff.mp served
      have went : missing = [] → verdict missing = .ok () := by
        intro clean
        rw [clean]
        rfl
      exact
        { applied := each
          within := only
          missed := mem_unserved transcript
          refused := absurd none
          unavailable := fun _ => absurd uncomplained
          probed := fun _ _ _ => ⟨_, missing, asked, groupVersions_increasing registrations,
            mem_groupVersions registrations, went, tells_of_verdict⟩
          unprobed := fun _ _ unwired => absurd wired (by simp [unwired]) }

/-- Whatever the store and discovery answer, and however their answers depend on what came before:
refused applies are told before registrations that are not served, and these before discovery is
asked. -/
theorem syncEnabled_verdict {σ : Type} (answer : (question : Call) → StateM σ question.Reply)
    (prober : Bool) (registrations : List Registration) (state : σ) :
    Verdict prober registrations ((syncEnabled prober registrations).transcriptIn answer state)
      (((syncEnabled prober registrations).interpret answer).run state).1 :=
  verdict_of_yields (Interaction.yields_transcriptIn _ _)

end Cycle

end Registrar
