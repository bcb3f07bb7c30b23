import Registrar.Proofs.Cycle.Evidence
import Registrar.Proofs.Failures
/-!
# The report tells the truth

A managed cycle writes two conditions and yields a result. Both are compared here with what the
collaborators replied: the conditions say exactly which phases went well, and the result holds every
failure that was met, unless the write itself fails.
-/

set_option autoImplicit false

namespace Registrar.Cycle

/-! ## What the phases found -/

/-- The failures of deletes, unless they only say that there was nothing to delete. -/
def leftover : Evidence Failure where
  phase := .deletion
  tell
    | ⟨.delete _, .error failure⟩ => if failure.SaysGone then none else some failure
    | _ => none

abbrev leftovers (transcript : Transcript calls) : List Failure :=
  leftover.found transcript

/-- What was asked of the gate, and its answer. -/
def gating : Evidence (List Registration × Except Failure Bool) where
  phase := .gate
  tell
    | ⟨.check enabled, answer⟩ => some (enabled, answer)
    | _ => none

abbrev gatings (transcript : Transcript calls) :
    List (List Registration × Except Failure Bool) :=
  gating.found transcript

/-- What was applied, and the reply. -/
def application : Evidence (Registration × Except Failure Applied) where
  phase := .application
  tell
    | ⟨.apply desired, reply⟩ => some (desired, reply)
    | _ => none

abbrev applications (transcript : Transcript calls) :
    List (Registration × Except Failure Applied) :=
  application.found transcript

def refusals (transcript : Transcript calls) : List Failure :=
  (applications transcript).filterMap fun application =>
    match application.2 with
    | .error failure => some failure
    | .ok _ => none

/-- The messages on what was applied but is not served. -/
def complaints (transcript : Transcript calls) : List String :=
  (applications transcript).filterMap fun application =>
    match application.2 with
    | .error _ => none
    | .ok applied => unavailableMessage? applied.object

/-- What discovery was asked for, and the messages on what it lacks. -/
def discovery : Evidence (List GroupVersion × List String) where
  phase := .verification
  tell
    | ⟨.probe versions, missing⟩ => some (versions, missing)
    | _ => none

abbrev discoveries (transcript : Transcript calls) : List (List GroupVersion × List String) :=
  discovery.found transcript

/-- The conditions that were written, and the reply. -/
def writing : Evidence (List Condition × Except Failure Unit) where
  phase := .report
  tell
    | ⟨.writeConditions conditions, reply⟩ => some (conditions, reply)
    | _ => none

abbrev writings (transcript : Transcript calls) : List (List Condition × Except Failure Unit) :=
  writing.found transcript

theorem mem_applications (transcript : Transcript calls) (desired : Registration)
    (reply : Except Failure Applied) :
    (desired, reply) ∈ applications transcript ↔ ⟨.apply desired, reply⟩ ∈ transcript := by
  constructor
  · intro found
    obtain ⟨exchange, member, told⟩ := List.mem_filterMap.mp found
    simp only [application] at told
    split at told
    · cases told
      exact member
    · cases told
  · intro member
    exact application.mem_found_of_mem member rfl

theorem leftovers_eq_nil_iff (transcript : Transcript calls) :
    leftovers transcript = [] ↔
      ¬ ∃ name failure, ⟨.delete name, .error failure⟩ ∈ transcript ∧ ¬ failure.SaysGone := by
  constructor
  · intro clean some
    obtain ⟨name, failure, member, serious⟩ := some
    have told : leftover.tell ⟨.delete name, .error failure⟩ = some failure := by
      simp [leftover, serious]
    have found : failure ∈ leftovers transcript := leftover.mem_found_of_mem member told
    rw [clean] at found
    cases found
  · intro clean
    refine List.filterMap_eq_nil_iff.mpr ?_
    intro exchange member
    simp only [leftover]
    split
    · next name failure =>
        by_cases gone : failure.SaysGone
        · exact if_pos gone
        · exact absurd ⟨name, failure, member, gone⟩ clean
    · rfl

theorem refusals_eq_nil_iff (transcript : Transcript calls) :
    refusals transcript = [] ↔
      ∀ desired failure, ⟨.apply desired, .error failure⟩ ∉ transcript := by
  unfold refusals
  rw [List.filterMap_eq_nil_iff]
  constructor
  · intro accepted desired failure member
    simpa using accepted _ ((mem_applications _ _ _).mpr member)
  · intro accepted application member
    obtain ⟨desired, reply⟩ := application
    cases reply with
    | error failure =>
        exact absurd ((mem_applications _ _ _).mp member) (accepted desired failure)
    | ok applied => rfl

theorem unavailableMessage?_eq_none_iff (applied : Registration) :
    unavailableMessage? applied = none ↔
      ∀ condition, applied.FirstAvailable condition → condition.status = .true := by
  simp only [← Registration.availableCondition_eq_some_iff]
  unfold unavailableMessage?
  cases applied.availableCondition with
  | none => simp
  | some condition => simp

theorem complaints_eq_nil_iff (transcript : Transcript calls) :
    complaints transcript = [] ↔
      ∀ desired applied condition, ⟨.apply desired, .ok applied⟩ ∈ transcript →
        applied.object.FirstAvailable condition → condition.status = .true := by
  unfold complaints
  rw [List.filterMap_eq_nil_iff]
  constructor
  · intro served desired applied condition member
    exact (unavailableMessage?_eq_none_iff applied.object).mp
      (served _ ((mem_applications _ _ _).mpr member)) condition
  · intro served application member
    obtain ⟨desired, reply⟩ := application
    cases reply with
    | error failure => rfl
    | ok applied =>
        refine (unavailableMessage?_eq_none_iff applied.object).mpr ?_
        intro condition
        exact served desired applied condition ((mem_applications _ _ _).mp member)

theorem aggregate_eq_ok_iff (failures : List Failure) :
    aggregate failures = .ok () ↔ failures = [] := by
  cases failures <;> simp [aggregate]

theorem failureOf_aggregate_eq_none_iff (failures : List Failure) :
    failureOf (aggregate failures) = none ↔ failures = [] := by
  cases failures <;> simp [aggregate, failureOf]

/-- What the phase of applies failed with, as a transcript tells it: applies that were refused count
before registrations that are not served. -/
def applicationFailure (transcript : Transcript calls) : Option Failure :=
  (failureOf (aggregate (refusals transcript))).or
    (failureOf (verdict (complaints transcript ++ (discoveries transcript).flatMap Prod.snd)))

def checkFailure : Except Failure Bool → Option Failure
  | .error failure => some failure
  | .ok _ => none

theorem applicationFailure_eq_none_iff (transcript : Transcript calls) :
    applicationFailure transcript = none ↔
      refusals transcript = [] ∧ complaints transcript = [] ∧
        (discoveries transcript).flatMap Prod.snd = [] := by
  unfold applicationFailure
  cases refusals transcript with
  | cons failure rest => simp [aggregate, failureOf]
  | nil =>
      rw [← List.append_eq_nil_iff]
      cases complaints transcript ++ (discoveries transcript).flatMap Prod.snd <;>
        simp [aggregate, failureOf, verdict]

/-! ## What a managed cycle tells -/

theorem leftovers_deletions (deletions : List Deletion) :
    leftovers (deletions.flatMap Deletion.transcript) = deletions.filterMap Deletion.failure := by
  refine leftover.found_flatMap (fun deletion => ?_) deletions
  cases deletion with
  | absent name => rfl
  | underway name existing deleting => rfl
  | issued name existing live reply =>
      cases reply with
      | ok => rfl
      | error failure =>
          by_cases gone : failure.SaysGone <;>
            simp [Deletion.transcript, Deletion.failure, Evidence.found, leftover,
              failure.isNotFound_iff, gone]

theorem applications_attempts (attempts : List Attempt) :
    applications (attempts.flatMap Attempt.transcript) =
      attempts.map fun attempt => (attempt.registration.withDefaults, attempt.reply) := by
  rw [← List.filterMap_eq_map]
  refine application.found_flatMap (fun attempt => ?_) attempts
  obtain ⟨registration, reply⟩ := attempt
  cases reply <;> rfl

theorem Verified.failure_eq {prober : Bool} {registrations : List Registration}
    {application : Application} {verifying : Transcript calls} {result : Except Failure Unit}
    (verified : Verified prober registrations application verifying result) :
    failureOf result = (failureOf (aggregate application.failures)).or
      (failureOf (verdict (application.messages ++ (discoveries verifying).flatMap Prod.snd))) := by
  obtain ⟨failures, messages⟩ := application
  cases verified with
  | failed some =>
      obtain ⟨failure, rest, rfl⟩ := List.exists_cons_of_ne_nil some
      rfl
  | unserved none some =>
      obtain ⟨message, rest, rfl⟩ := List.exists_cons_of_ne_nil some
      cases none
      simp [discoveries, Evidence.found, verdict, aggregate, failureOf]
  | unprobed none served unwired =>
      cases none
      cases served
      rfl
  | probed missing none served wired =>
      cases none
      cases served
      simp [discoveries, Evidence.found, discovery, aggregate, failureOf]

/-- Applies that went well are verified by the prober if there is one. -/
theorem Verified.discoveries_eq {prober : Bool} {registrations : List Registration}
    {application : Application} {verifying : Transcript calls} {result : Except Failure Unit}
    (verified : Verified prober registrations application verifying result)
    (accepted : application.failures = []) (served : application.messages = []) :
    if prober then ∃ missing, discoveries verifying = [(groupVersions registrations, missing)]
    else discoveries verifying = [] := by
  cases verified with
  | failed some => exact absurd accepted some
  | unserved none some => exact absurd served some
  | unprobed none served unwired =>
      cases unwired
      rfl
  | probed missing none served wired =>
      cases wired
      exact ⟨missing, rfl⟩

namespace Gated

variable {prober : Bool} {enabled : List Registration} {deletion : Option Failure}
  {answer : Except Failure Bool} {attempts : List Attempt} {verifying : Transcript calls}
  {outcomes : Outcomes}

/-- An apply can only have failed if the gate was open, so no failure is lost behind a closed one. -/
theorem outcomes_eq
    (gated : Gated prober enabled deletion answer attempts verifying outcomes) :
    outcomes = ⟨deletion, checkFailure answer, isOpen answer, outcomes.application⟩ ∧
      (isOpen answer = false → outcomes.application = none) := by
  cases gated with
  | failed failure => exact ⟨rfl, fun _ => rfl⟩
  | unready => exact ⟨rfl, fun _ => rfl⟩
  | ready registered verified => exact ⟨rfl, fun closed => absurd closed (by decide)⟩

theorem application_eq
    (gated : Gated prober enabled deletion answer attempts verifying outcomes) :
    outcomes.application = (failureOf (aggregate (attempts.filterMap Attempt.failure))).or
      (failureOf (verdict (attempts.filterMap Attempt.message ++
        (discoveries verifying).flatMap Prod.snd))) := by
  cases gated with
  | failed failure => rfl
  | unready => rfl
  | ready registered verified => exact verified.failure_eq

theorem discoveries_eq
    (gated : Gated prober enabled deletion answer attempts verifying outcomes)
    (opened : answer = .ok true) (accepted : attempts.filterMap Attempt.failure = [])
    (available : attempts.filterMap Attempt.message = []) :
    if prober then ∃ missing, discoveries verifying = [(groupVersions enabled, missing)]
    else discoveries verifying = [] := by
  cases gated with
  | failed | unready => cases opened
  | ready registered verified => exact verified.discoveries_eq accepted available

end Gated

namespace ManagedRun

variable {prober : Bool} {lists : ManagedRegistrations}

theorem leftovers_transcript (run : ManagedRun prober lists.resolve) :
    leftovers run.transcript = run.deletions.filterMap Deletion.failure :=
  (run.found_exchanges leftover).trans (leftovers_deletions run.deletions)

theorem gatings_transcript (run : ManagedRun prober lists.resolve) :
    gatings run.transcript = [(lists.resolve.enabled, run.answer)] :=
  run.found_exchanges gating

theorem applications_transcript (run : ManagedRun prober lists.resolve) :
    applications run.transcript =
      run.attempts.map fun attempt => (attempt.registration.withDefaults, attempt.reply) :=
  (run.found_exchanges application).trans (applications_attempts run.attempts)

theorem refusals_transcript (run : ManagedRun prober lists.resolve) :
    refusals run.transcript = run.attempts.filterMap Attempt.failure := by
  rw [refusals, run.applications_transcript, List.filterMap_map]
  rfl

theorem complaints_transcript (run : ManagedRun prober lists.resolve) :
    complaints run.transcript = run.attempts.filterMap Attempt.message := by
  rw [complaints, run.applications_transcript, List.filterMap_map]
  rfl

theorem discoveries_transcript (run : ManagedRun prober lists.resolve) :
    discoveries run.transcript = discoveries run.verifying :=
  run.found_exchanges discovery

theorem writings_transcript (run : ManagedRun prober lists.resolve) :
    writings run.transcript = writings run.reporting :=
  run.found_exchanges writing

theorem applied_of_opened (run : ManagedRun prober lists.resolve) (opened : run.answer = .ok true) :
    (applications run.transcript).map Prod.fst =
      lists.resolve.enabled.map Registration.withDefaults := by
  have registered := run.gated.registrations_eq
  rw [opened, isOpen, if_pos rfl] at registered
  rw [run.applications_transcript, ← registered, List.map_map, List.map_map]
  rfl

theorem application_eq (run : ManagedRun prober lists.resolve) :
    run.outcomes.application = applicationFailure run.transcript := by
  rw [applicationFailure, run.refusals_transcript, run.complaints_transcript,
    run.discoveries_transcript]
  exact run.gated.application_eq

end ManagedRun

/-! ## The conditions and the result -/

/-- All enabled registrations were accepted, none of them came back as not available, and the prober,
if there is one, found nothing missing. -/
structure Served (prober : Bool) (enabled : List Registration) (answer : Except Failure Bool)
    (transcript : Transcript calls) : Prop where
  opened : answer = .ok true
  accepted : ∀ desired failure, ⟨.apply desired, .error failure⟩ ∉ transcript
  available : ∀ desired applied condition, ⟨.apply desired, .ok applied⟩ ∈ transcript →
    applied.object.FirstAvailable condition → condition.status = .true
  discovered : prober = true → discoveries transcript = [(groupVersions enabled, [])]

/-- What the condition on disabled registrations says, next to what the deletes replied. -/
structure DegradedTold (transcript : Transcript calls) (degraded : Condition) : Prop where
  type : degraded.type = "RegistrationsDegraded"
  leftover_iff : degraded.status = .true ↔
    ∃ name failure, ⟨.delete name, .error failure⟩ ∈ transcript ∧ ¬ failure.SaysGone
  leftover : degraded.status = .true → degraded.reason = "DisabledRegistrationsPresent" ∧
    degraded.message = (Failure.aggregate (leftovers transcript)).message
  clean : degraded.status ≠ .true →
    degraded.status = .false ∧ degraded.reason = "AsExpected" ∧ degraded.message = ""

/-- What the condition on enabled registrations says, next to the answer of the gate and to what
the applies and the prober replied. -/
structure AvailableTold (prober : Bool) (enabled : List Registration)
    (answer : Except Failure Bool) (transcript : Transcript calls) (available : Condition) :
    Prop where
  applied : answer = .ok true →
    (applications transcript).map Prod.fst = enabled.map Registration.withDefaults
  type : available.type = "RegistrationsAvailable"
  served_iff : available.status = .true ↔ Served prober enabled answer transcript
  served : available.status = .true → available.reason = "AsExpected" ∧ available.message = ""
  unserved : available.status ≠ .true → available.status = .false
  checkFailed_iff : available.reason = "ErrorCheckingPrecondition" ↔
    ∃ failure, answer = .error failure
  notReady_iff : available.reason = "PreconditionNotReady" ↔ answer = .ok false
  failed_iff : available.reason = "Error" ↔
    answer = .ok true ∧ ¬ Served prober enabled answer transcript
  message : available.status ≠ .true → available.message =
    match answer with
    | .error failure => failure.message
    | .ok false => "PreconditionNotReady"
    | .ok true => ((applicationFailure transcript).map Failure.message).getD ""

/-- What the result of the cycle holds, next to the failures of all phases. -/
structure ResultTold (prober : Bool) (enabled : List Registration)
    (answer : Except Failure Bool) (transcript : Transcript calls)
    (reply result : Except Failure Unit) : Prop where
  overridden : ∀ failure, reply = .error failure → result = .error failure
  told : reply = .ok () → result = aggregate
    ((failureOf (aggregate (leftovers transcript))).toList ++ (checkFailure answer).toList ++
      (applicationFailure transcript).toList)
  ok_iff : reply = .ok () → (result = .ok () ↔
    (∀ name failure, ⟨.delete name, .error failure⟩ ∈ transcript → failure.SaysGone) ∧
      (answer = .ok false ∨ Served prober enabled answer transcript))

namespace ManagedRun

variable {prober : Bool} {lists : ManagedRegistrations}

theorem degradedTold (run : ManagedRun prober lists.resolve) (now : String) :
    DegradedTold run.transcript (run.outcomes.degraded now) := by
  have deletion : run.outcomes.deletion = failureOf (aggregate (leftovers run.transcript)) := by
    rw [run.leftovers_transcript, run.gated.outcomes_eq.1]
  have clean := leftovers_eq_nil_iff run.transcript
  unfold Outcomes.degraded
  rw [deletion]
  cases found : leftovers run.transcript with
  | nil =>
      have allGone := clean.mp found
      refine ⟨rfl, ⟨fun wrong => ?_, fun remains => absurd remains allGone⟩, fun wrong => ?_,
        fun _ => ⟨rfl, rfl, rfl⟩⟩
      · cases wrong
      · cases wrong
  | cons failure rest =>
      have remains := Classical.not_not.mp (mt clean.mpr (by simp [found]))
      refine ⟨rfl, ⟨fun _ => remains, fun _ => rfl⟩, fun _ => ⟨rfl, ?_⟩,
        fun wrong => absurd rfl wrong⟩
      rw [found]
      rfl

theorem served_iff (run : ManagedRun prober lists.resolve) :
    Served prober lists.resolve.enabled run.answer run.transcript ↔
      run.answer = .ok true ∧ applicationFailure run.transcript = none := by
  have probed : run.answer = .ok true → refusals run.transcript = [] →
      complaints run.transcript = [] →
      if prober then
        ∃ missing, discoveries run.transcript = [(groupVersions lists.resolve.enabled, missing)]
      else discoveries run.transcript = [] := by
    rw [run.refusals_transcript, run.complaints_transcript, run.discoveries_transcript]
    exact run.gated.discoveries_eq
  rw [applicationFailure_eq_none_iff]
  constructor
  · intro served
    obtain ⟨opened, accepted, available, discovered⟩ := served
    have noRefusal := (refusals_eq_nil_iff _).mpr accepted
    have noComplaint := (complaints_eq_nil_iff _).mpr available
    refine ⟨opened, noRefusal, noComplaint, ?_⟩
    cases prober with
    | true =>
        rw [discovered rfl]
        rfl
    | false =>
        have unprobed := probed opened noRefusal noComplaint
        simp only [Bool.false_eq_true, if_false] at unprobed
        rw [unprobed]
        rfl
  · intro served
    obtain ⟨opened, noRefusal, noComplaint, nothing⟩ := served
    refine ⟨opened, (refusals_eq_nil_iff _).mp noRefusal,
      (complaints_eq_nil_iff _).mp noComplaint, ?_⟩
    intro wired
    subst wired
    obtain ⟨missing, asked⟩ := probed opened noRefusal noComplaint
    rw [asked] at nothing ⊢
    obtain rfl : missing = [] := by simpa using nothing
    rfl

/-- The condition on enabled registrations, by what has kept them from being served. -/
theorem available_eq (run : ManagedRun prober lists.resolve) (now : String) :
    run.outcomes.available now =
      match run.answer, applicationFailure run.transcript with
      | .error failure, _ =>
          (Condition.available now).set .false .errorCheckingPrecondition failure.message
      | .ok false, _ =>
          (Condition.available now).set .false .preconditionNotReady "PreconditionNotReady"
      | .ok true, some failure => (Condition.available now).set .false .error failure.message
      | .ok true, none => Condition.available now := by
  obtain ⟨outcomes, closed⟩ := run.gated.outcomes_eq
  rw [run.application_eq] at outcomes closed
  rw [outcomes]
  cases answer : run.answer with
  | error failure =>
      rw [answer] at closed
      rw [closed rfl]
      rfl
  | ok ready =>
      cases ready with
      | false => rfl
      | true => cases applicationFailure run.transcript <;> rfl

theorem availableTold (run : ManagedRun prober lists.resolve) (now : String) :
    AvailableTold prober lists.resolve.enabled run.answer run.transcript
      (run.outcomes.available now) := by
  have applied := run.applied_of_opened
  have available := run.available_eq now
  have served := run.served_iff
  cases answer : run.answer with
  | error failure =>
      rw [answer] at applied available served
      rw [available]
      refine ⟨applied, rfl, ?_, ?_, ?_, ?_, ?_, ?_, fun _ => rfl⟩ <;>
        simp [served, Condition.set, ConditionReason.name]
  | ok ready =>
      rw [answer] at applied available served
      cases ready with
      | false =>
          rw [available]
          refine ⟨applied, rfl, ?_, ?_, ?_, ?_, ?_, ?_, fun _ => rfl⟩ <;>
            simp [served, Condition.set, ConditionReason.name]
      | true =>
          cases failed : applicationFailure run.transcript with
          | none =>
              rw [failed] at available served
              rw [available]
              refine ⟨applied, rfl, ?_, ?_, ?_, ?_, ?_, ?_, ?_⟩ <;>
                simp [served, Condition.available, Condition.new, ConditionReason.name]
          | some failure =>
              rw [failed] at available served
              rw [available]
              refine ⟨applied, rfl, ?_, ?_, ?_, ?_, ?_, ?_, ?_⟩ <;>
                simp [served, failed, Condition.set, ConditionReason.name]

theorem failures_eq (run : ManagedRun prober lists.resolve) :
    run.outcomes.failures = (failureOf (aggregate (leftovers run.transcript))).toList ++
      (checkFailure run.answer).toList ++ (applicationFailure run.transcript).toList := by
  obtain ⟨outcomes, closed⟩ := run.gated.outcomes_eq
  rw [run.application_eq, ← run.leftovers_transcript] at outcomes
  rw [run.application_eq] at closed
  rw [outcomes]
  cases answer : run.answer with
  | error failure => rfl
  | ok ready =>
      cases ready with
      | false =>
          rw [answer] at closed
          simp [Outcomes.failures, checkFailure, isOpen, closed rfl]
      | true => rfl

theorem resultTold (run : ManagedRun prober lists.resolve) (reply : Except Failure Unit) :
    ResultTold prober lists.resolve.enabled run.answer run.transcript reply
      (run.outcomes.resultAfter reply) := by
  refine ⟨?_, ?_, ?_⟩
  · intro failure replied
    rw [replied]
    rfl
  · intro replied
    rw [replied, ← run.failures_eq]
    rfl
  · intro replied
    subst replied
    have closed := run.gated.outcomes_eq.2
    have served := run.served_iff
    rw [run.application_eq] at closed
    have gone : (∀ name failure, ⟨.delete name, .error failure⟩ ∈ run.transcript →
        failure.SaysGone) ↔ leftovers run.transcript = [] := by
      rw [leftovers_eq_nil_iff]
      simp only [not_exists, not_and, Classical.not_not]
    have result : run.outcomes.resultAfter (.ok ()) = aggregate run.outcomes.failures := rfl
    rw [result, aggregate_eq_ok_iff, run.failures_eq, gone]
    simp only [List.append_eq_nil_iff, Option.toList_eq_nil_iff, failureOf_aggregate_eq_none_iff,
      and_assoc]
    refine and_congr_right fun _ => ?_
    cases answer : run.answer with
    | error failure =>
        rw [answer] at served
        simp [checkFailure, served]
    | ok ready =>
        rw [answer] at closed served
        cases ready with
        | false => simp [checkFailure, closed rfl]
        | true => simp [checkFailure, served]

end ManagedRun

theorem Outcomes.writings_writing (outcomes : Outcomes) (degradedAt availableAt : String)
    (reply : Except Failure Unit) :
    writings (outcomes.inquiry ++ outcomes.writing degradedAt availableAt reply) =
      [([outcomes.degraded degradedAt, outcomes.available availableAt], reply)] := by
  unfold Outcomes.inquiry
  split <;> rfl

theorem Reported.written_of_going {outcomes : Outcomes} {reporting : Transcript calls}
    {result : Except Failure Unit} (reported : Reported outcomes reporting result)
    (going : (⟨.isShuttingDown, true⟩ : Exchange calls) ∉ reporting) :
    ∃ degradedAt availableAt reply,
      writings reporting =
        [([outcomes.degraded degradedAt, outcomes.available availableAt], reply)] ∧
      result = outcomes.resultAfter reply := by
  cases reported with
  | suppressed failed => exact absurd (.head _) going
  | written degradedAt availableAt reply =>
      exact ⟨degradedAt, availableAt, reply,
        outcomes.writings_writing degradedAt availableAt reply, rfl⟩

theorem Reported.reasons_closed {outcomes : Outcomes} {reporting : Transcript calls}
    {result : Except Failure Unit} (reported : Reported outcomes reporting result) :
    ∀ written ∈ writings reporting, ∀ condition ∈ written.1,
      condition.reason ∈ ConditionReason.all.map ConditionReason.name := by
  cases reported with
  | suppressed failed => exact fun _ member => nomatch member
  | written degradedAt availableAt reply =>
      rw [outcomes.writings_writing]
      exact List.forall_mem_singleton.mpr (List.forall_mem_cons.mpr
        ⟨outcomes.reason_degraded_mem degradedAt,
          List.forall_mem_singleton.mpr (outcomes.reason_available_mem availableAt)⟩)

/-- Whatever happens in a cycle, the reasons that it reports are out of a closed set. -/
theorem Course.reasons_closed {prober : Bool} {transcript : Transcript calls}
    {result : Except Failure Unit} (course : Course prober transcript result) :
    ∀ written ∈ writings transcript, ∀ condition ∈ written.1,
      condition.reason ∈ ConditionReason.all.map ConditionReason.name := by
  cases course with
  | unread | unmanaged | unknown | unlisted => exact fun _ member => nomatch member
  | @removed lists deletions names =>
      have unwritten : writings (⟨.readMode, .ok .removed⟩ :: ⟨.listManaged, .ok lists⟩ ::
          deletions.flatMap Deletion.transcript) = [] :=
        writing.found_append_of_elsewhere [⟨.readMode, .ok .removed⟩, ⟨.listManaged, .ok lists⟩]
          ((Within.flatMap Deletion.within deletions).ne (by decide))
      rw [unwritten]
      exact fun _ member => nomatch member
  | managed run =>
      rw [run.writings_transcript]
      exact run.reported.reasons_closed

/-- For all replies of the collaborators: a cycle that manages its lists, and does not give up during
a shutdown, asks the gate once and writes its two conditions once. The conditions and the result say
which phases went well, neither hiding a failure nor making one up. -/
theorem report_truthful {prober : Bool} {transcript : Transcript calls}
    {result : Except Failure Unit} (yields : (sync prober).Yields transcript result)
    (managed : .managed ∈ instructions transcript) {lists : ManagedRegistrations}
    (listed : lists ∈ listings transcript)
    (going : (⟨.isShuttingDown, true⟩ : Exchange calls) ∉ transcript) :
    ∃ answer degraded available reply,
      gatings transcript = [(lists.resolve.enabled, answer)] ∧
      writings transcript = [([degraded, available], reply)] ∧
      DegradedTold transcript degraded ∧
      AvailableTold prober lists.resolve.enabled answer transcript available ∧
      ResultTold prober lists.resolve.enabled answer transcript reply result := by
  obtain ⟨run, rfl, rfl⟩ :=
    ((sync_yields_iff prober _ _).mp yields).exists_managedRun managed listed
  have reportGoing : (⟨.isShuttingDown, true⟩ : Exchange calls) ∉ run.reporting := by
    intro member
    apply going
    simp [ManagedRun.transcript, ManagedRun.exchanges, member]
  obtain ⟨degradedAt, availableAt, reply, written, ended⟩ :=
    run.reported.written_of_going reportGoing
  refine ⟨run.answer, run.outcomes.degraded degradedAt, run.outcomes.available availableAt, reply,
    run.gatings_transcript, ?_, run.degradedTold degradedAt, run.availableTold availableAt, ?_⟩
  · rw [run.writings_transcript, written]
  · rw [ended]
    exact run.resultTold reply

/-- The object that comes back from an apply before its service answers. -/
def sampleUnavailable : Registration :=
  { sampleRegistration "v1" with
    status := some ⟨[⟨"Available", .false, none, "MissingEndpoints", "no endpoints"⟩]⟩ }

def sampleOutcomes : Outcomes :=
  { deletion := some (.aggregate [.io "connection reset"]), check := none, ready := true
    application := some (unavailable (unavailableMessage? sampleUnavailable).toList) }

/-- A cycle in which a delete fails and an apply is accepted but not served. -/
def sampleTroubles : Transcript calls :=
  [⟨.readMode, .ok .managed⟩,
    ⟨.listManaged, .ok ⟨[sampleRegistration "v1"], [sampleRegistration "v1beta1"]⟩⟩,
    ⟨.cached "v1beta1.metrics.example.io", some (sampleRegistration "v1beta1")⟩,
    ⟨.observe .delete, ()⟩,
    ⟨.delete "v1beta1.metrics.example.io", .error (.io "connection reset")⟩,
    ⟨.check [sampleRegistration "v1"], .ok true⟩,
    ⟨.apply (sampleRegistration "v1"), .ok ⟨sampleUnavailable, true⟩⟩,
    ⟨.observe (.apply true), ()⟩, ⟨.isShuttingDown, false⟩, ⟨.now, ""⟩, ⟨.now, ""⟩,
    ⟨.observe (.conditionStatus "RegistrationsDegraded" true), ()⟩,
    ⟨.observe (.conditionStatus "RegistrationsAvailable" false), ()⟩,
    ⟨.writeConditions [sampleOutcomes.degraded "", sampleOutcomes.available ""], .ok ()⟩]

/-- Both conditions tell the troubles, and so does the result. -/
theorem report_truthful_troubles :
    (sync true).Yields sampleTroubles (aggregate sampleOutcomes.failures) ∧
      ∃ answer degraded available reply,
        gatings sampleTroubles = [([sampleRegistration "v1"], answer)] ∧
        writings sampleTroubles = [([degraded, available], reply)] ∧
        DegradedTold sampleTroubles degraded ∧
        AvailableTold true [sampleRegistration "v1"] answer sampleTroubles available ∧
        ResultTold true [sampleRegistration "v1"] answer sampleTroubles reply
          (aggregate sampleOutcomes.failures) := by
  have yields : (sync true).Yields sampleTroubles (aggregate sampleOutcomes.failures) :=
    .ask (.ask (.ask (.ask (.ask (.ask (.ask (.ask (.ask (.ask (.ask (.ask (.ask (.ask (.done
      _))))))))))))))
  exact ⟨yields, report_truthful yields (.head _) (.head _) (by simp [sampleTroubles])⟩

end Registrar.Cycle
