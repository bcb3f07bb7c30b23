import Registrar.Proofs.Cycle.Phases
import Registrar.Proofs.Cycle.Resolution
/-!
# The course of a cycle

How a whole cycle can go: each way in which it ends is one case of `Course`, with the phases it went
through. Every run of a cycle is one of these, so what is shown of every case holds of every run.
-/

set_option autoImplicit false

namespace Registrar.Cycle

/-! ## Following up the applies -/

/-- How applies are followed up: the exchanges that verify them, and the result of their phase. -/
inductive Verified (prober : Bool) (registrations : List Registration)
    (application : Application) : Transcript calls → Except Failure Unit → Prop where
  | failed : application.failures ≠ [] →
      Verified prober registrations application [] (.error (.aggregate application.failures))
  | unserved : application.failures = [] → application.messages ≠ [] →
      Verified prober registrations application [] (.error (unavailable application.messages))
  | unprobed : application.failures = [] → application.messages = [] → prober = false →
      Verified prober registrations application [] (.ok ())
  | probed (missing : List String) : application.failures = [] → application.messages = [] →
      prober = true →
      Verified prober registrations application [⟨.probe (groupVersions registrations), missing⟩]
        (verdict missing)

theorem syncEnabled_yields_iff (prober : Bool) (registrations : List Registration)
    (transcript : Transcript calls) (result : Except Failure Unit) :
    (syncEnabled prober registrations).Yields transcript result ↔
      ∃ (attempts : List Attempt) (verifying : Transcript calls),
        attempts.map Attempt.registration = registrations ∧
        transcript = attempts.flatMap Attempt.transcript ++ verifying ∧
        Verified prober registrations
          ⟨attempts.filterMap Attempt.failure, attempts.filterMap Attempt.message⟩
          verifying result := by
  simp only [syncEnabled, Interaction.yields_bind_iff, applyAll_yields_iff]
  constructor
  · intro ran
    obtain ⟨_, application, verifying, rfl, ⟨attempts, registered, rfl, same⟩, run⟩ := ran
    refine ⟨attempts, verifying, registered, rfl, ?_⟩
    rw [← same]
    obtain ⟨failures, messages⟩ := application
    cases failures with
    | cons failure failures =>
        obtain ⟨rfl, rfl⟩ := (Interaction.yields_done_iff _ _ _).mp run
        exact .failed (List.cons_ne_nil _ _)
    | nil =>
        cases messages with
        | cons message messages =>
            obtain ⟨rfl, rfl⟩ := (Interaction.yields_done_iff _ _ _).mp run
            exact .unserved rfl (List.cons_ne_nil _ _)
        | nil =>
            cases prober with
            | false =>
                obtain ⟨rfl, rfl⟩ := (Interaction.yields_done_iff _ _ _).mp run
                exact .unprobed rfl rfl rfl
            | true =>
                obtain ⟨missing, _, rfl, ended⟩ :=
                  (yields_call_bind_iff (.probe (groupVersions registrations)) _ _ _).mp run
                obtain ⟨rfl, rfl⟩ := (Interaction.yields_done_iff _ _ _).mp ended
                exact .probed missing rfl rfl rfl
  · intro assembled
    obtain ⟨attempts, verifying, registered, rfl, verified⟩ := assembled
    refine ⟨_, _, verifying, rfl, ⟨attempts, registered, rfl, rfl⟩, ?_⟩
    generalize (⟨_, _⟩ : Application) = application at verified
    obtain ⟨failures, messages⟩ := application
    cases verified with
    | failed some =>
        cases failures with
        | nil => exact absurd rfl some
        | cons failure failures => exact .done _
    | unserved none some =>
        cases none
        cases messages with
        | nil => exact absurd rfl some
        | cons message messages => exact .done _
    | unprobed failed unserved unwired =>
        cases failed
        cases unserved
        cases unwired
        exact .done _
    | probed missing failed unserved wired =>
        cases failed
        cases unserved
        cases wired
        exact (yields_call_bind_iff (.probe (groupVersions registrations)) _ _ _).mpr
          ⟨missing, [], rfl, .done _⟩

/-! ## Reporting -/

@[simp]
theorem Outcomes.degraded_type (outcomes : Outcomes) (now : String) :
    (outcomes.degraded now).type = Condition.degradedType := by
  unfold Outcomes.degraded
  cases outcomes.deletion <;> rfl

@[simp]
theorem Outcomes.available_type (outcomes : Outcomes) (now : String) :
    (outcomes.available now).type = Condition.availableType := by
  unfold Outcomes.available
  cases outcomes.check <;> cases outcomes.ready <;> cases outcomes.application <;> rfl

/-- The question that precedes a report: only failures make it matter whether the process is
shutting down. -/
def Outcomes.inquiry (outcomes : Outcomes) : Transcript calls :=
  if outcomes.failed then [⟨.isShuttingDown, false⟩] else []

/-- Write a report without asking about a shutdown. -/
def writeReport (outcomes : Outcomes) : Program (Except Failure Unit) := do
  let degradedAt ← call .now
  let availableAt ← call .now
  let report := outcomes.report degradedAt availableAt
  call (.observe (.conditionStatus report.degraded.type report.degraded.status.isTrue))
  call (.observe (.conditionStatus report.available.type report.available.status.isTrue))
  match ← call (.writeConditions [report.degraded, report.available]) with
  | .error failure => return .error failure
  | .ok () => return report.result

theorem updateStatus_eq (outcomes : Outcomes) :
    updateStatus outcomes =
      if outcomes.failed then
        call .isShuttingDown >>= fun suppressed =>
          if suppressed then pure (.error outcomes.shutdownFailure) else writeReport outcomes
      else writeReport outcomes := by
  unfold updateStatus
  split <;> rfl

/-- The exchanges of a report that is written. -/
def Outcomes.writing (outcomes : Outcomes) (degradedAt availableAt : String)
    (reply : Except Failure Unit) : Transcript calls :=
  [⟨.now, degradedAt⟩, ⟨.now, availableAt⟩,
    ⟨.observe (.conditionStatus (outcomes.degraded degradedAt).type
      (outcomes.degraded degradedAt).status.isTrue), ()⟩,
    ⟨.observe (.conditionStatus (outcomes.available availableAt).type
      (outcomes.available availableAt).status.isTrue), ()⟩,
    ⟨.writeConditions [outcomes.degraded degradedAt, outcomes.available availableAt], reply⟩]

/-- The result of a cycle whose report was written; a failure to write it replaces all others. -/
def Outcomes.resultAfter (outcomes : Outcomes) : Except Failure Unit → Except Failure Unit
  | .error failure => .error failure
  | .ok () => aggregate outcomes.failures

/-- How the outcomes of a cycle are reported, and the result of the cycle. -/
inductive Reported (outcomes : Outcomes) : Transcript calls → Except Failure Unit → Prop where
  | suppressed : outcomes.failed = true →
      Reported outcomes [⟨.isShuttingDown, true⟩] (.error outcomes.shutdownFailure)
  | written (degradedAt availableAt : String) (reply : Except Failure Unit) :
      Reported outcomes (outcomes.inquiry ++ outcomes.writing degradedAt availableAt reply)
        (outcomes.resultAfter reply)

theorem writeReport_yields_iff (outcomes : Outcomes) (transcript : Transcript calls)
    (result : Except Failure Unit) :
    (writeReport outcomes).Yields transcript result ↔
      ∃ degradedAt availableAt reply,
        transcript = outcomes.writing degradedAt availableAt reply ∧
        result = outcomes.resultAfter reply := by
  unfold writeReport
  constructor
  · intro run
    obtain ⟨degradedAt, _, rfl, first⟩ := (yields_call_bind_iff .now _ _ _).mp run
    obtain ⟨availableAt, _, rfl, second⟩ := (yields_call_bind_iff .now _ _ _).mp first
    obtain ⟨_, _, rfl, third⟩ := (yields_call_bind_iff (.observe _) _ _ _).mp second
    obtain ⟨_, _, rfl, fourth⟩ := (yields_call_bind_iff (.observe _) _ _ _).mp third
    obtain ⟨reply, _, rfl, last⟩ := (yields_call_bind_iff (.writeConditions _) _ _ _).mp fourth
    refine ⟨degradedAt, availableAt, reply, ?_⟩
    cases reply <;> obtain ⟨rfl, rfl⟩ := (Interaction.yields_done_iff _ _ _).mp last <;>
      exact ⟨rfl, rfl⟩
  · intro assembled
    obtain ⟨degradedAt, availableAt, reply, rfl, rfl⟩ := assembled
    refine (yields_call_bind_iff .now _ _ _).mpr ⟨degradedAt, _, rfl, ?_⟩
    refine (yields_call_bind_iff .now _ _ _).mpr ⟨availableAt, _, rfl, ?_⟩
    refine (yields_call_bind_iff (.observe _) _ _ _).mpr ⟨(), _, rfl, ?_⟩
    refine (yields_call_bind_iff (.observe _) _ _ _).mpr ⟨(), _, rfl, ?_⟩
    refine (yields_call_bind_iff (.writeConditions _) _ _ _).mpr ⟨reply, [], rfl, ?_⟩
    cases reply <;> exact .done _

theorem updateStatus_yields_iff (outcomes : Outcomes) (transcript : Transcript calls)
    (result : Except Failure Unit) :
    (updateStatus outcomes).Yields transcript result ↔ Reported outcomes transcript result := by
  rw [updateStatus_eq]
  constructor
  · have written := @Reported.written outcomes
    intro run
    cases failed : outcomes.failed with
    | false =>
        simp only [failed, Bool.false_eq_true, if_false, writeReport_yields_iff] at run
        obtain ⟨degradedAt, availableAt, reply, rfl, rfl⟩ := run
        simpa [Outcomes.inquiry, failed] using written degradedAt availableAt reply
    | true =>
        simp only [failed, if_true] at run
        obtain ⟨suppressed, rest, rfl, answered⟩ :=
          (yields_call_bind_iff .isShuttingDown _ _ _).mp run
        cases suppressed with
        | true =>
            obtain ⟨rfl, rfl⟩ := (Interaction.yields_done_iff _ _ _).mp answered
            exact .suppressed failed
        | false =>
            obtain ⟨degradedAt, availableAt, reply, rfl, rfl⟩ :=
              (writeReport_yields_iff outcomes rest result).mp answered
            simpa [Outcomes.inquiry, failed] using written degradedAt availableAt reply
  · intro reported
    cases reported with
    | suppressed failed =>
        rw [if_pos failed]
        exact (yields_call_bind_iff .isShuttingDown _ _ _).mpr ⟨true, [], rfl, .done _⟩
    | written degradedAt availableAt reply =>
        have written := (writeReport_yields_iff outcomes _ _).mpr
          ⟨degradedAt, availableAt, reply, rfl, rfl⟩
        cases failed : outcomes.failed with
        | false => simpa [Outcomes.inquiry, failed] using written
        | true =>
            simp only [Outcomes.inquiry, failed, if_true]
            exact (yields_call_bind_iff .isShuttingDown _ _ _).mpr ⟨false, _, rfl, written⟩

/-! ## Whole cycles -/

def isOpen : Except Failure Bool → Bool
  | .error _ => false
  | .ok ready => ready

/-- How a cycle goes on from the answer of the gate: its applies, what verifies them, and the
outcomes that it will report. -/
inductive Gated (prober : Bool) (enabled : List Registration) (deletion : Option Failure) :
    Except Failure Bool → List Attempt → Transcript calls → Outcomes → Prop where
  | failed (failure : Failure) :
      Gated prober enabled deletion (.error failure) [] [] ⟨deletion, some failure, false, none⟩
  | unready : Gated prober enabled deletion (.ok false) [] [] ⟨deletion, none, false, none⟩
  | ready {attempts : List Attempt} {verifying : Transcript calls} {result : Except Failure Unit}
      (registered : attempts.map Attempt.registration = enabled)
      (verified : Verified prober enabled
        ⟨attempts.filterMap Attempt.failure, attempts.filterMap Attempt.message⟩ verifying result) :
      Gated prober enabled deletion (.ok true) attempts verifying
        ⟨deletion, none, true, failureOf result⟩

namespace Gated

variable {prober : Bool} {enabled : List Registration} {deletion : Option Failure}
  {answer : Except Failure Bool} {attempts : List Attempt} {verifying : Transcript calls}
  {outcomes : Outcomes}

theorem registrations_eq
    (gated : Gated prober enabled deletion answer attempts verifying outcomes) :
    attempts.map Attempt.registration = if isOpen answer then enabled else [] := by
  cases gated with
  | failed | unready => rfl
  | ready registered verified => exact registered

theorem registrations_sublist
    (gated : Gated prober enabled deletion answer attempts verifying outcomes) :
    (attempts.map Attempt.registration).Sublist enabled := by
  cases gated with
  | failed | unready => exact List.nil_sublist enabled
  | ready registered verified => exact registered ▸ List.Sublist.refl _

theorem opened_or_closed
    (gated : Gated prober enabled deletion answer attempts verifying outcomes) :
    answer = .ok true ∨ (attempts = [] ∧ verifying = []) := by
  cases gated with
  | failed | unready => exact .inr ⟨rfl, rfl⟩
  | ready registered verified => exact .inl rfl

end Gated

/-- How a cycle in the ordinary mode goes once its lists are known and settled. -/
structure ManagedRun (prober : Bool) (lists : ManagedRegistrations) where
  deletions : List Deletion
  answer : Except Failure Bool
  attempts : List Attempt
  verifying : Transcript calls
  reporting : Transcript calls
  outcomes : Outcomes
  result : Except Failure Unit
  names : deletions.map Deletion.name = lists.disabled.map Registration.name
  gated : Gated prober lists.enabled
    (failureOf (aggregate (deletions.filterMap Deletion.failure))) answer attempts verifying outcomes
  reported : Reported outcomes reporting result

def ManagedRun.exchanges {prober : Bool} {lists : ManagedRegistrations}
    (run : ManagedRun prober lists) : Transcript calls :=
  run.deletions.flatMap Deletion.transcript ++ ⟨.check lists.enabled, run.answer⟩ ::
    (run.attempts.flatMap Attempt.transcript ++ (run.verifying ++ run.reporting))

/-- The whole cycle, with the exchanges that brought the instruction and the lists. -/
def ManagedRun.transcript {prober : Bool} {lists : ManagedRegistrations}
    (run : ManagedRun prober lists.resolve) : Transcript calls :=
  ⟨.readMode, .ok .managed⟩ :: ⟨.listManaged, .ok lists⟩ :: run.exchanges

/-- The ways in which a cycle can go. -/
inductive Course (prober : Bool) : Transcript calls → Except Failure Unit → Prop where
  | unread (failure : Failure) : Course prober [⟨.readMode, .error failure⟩] (.error failure)
  | unmanaged : Course prober [⟨.readMode, .ok .unmanaged⟩] (.ok ())
  | unknown (name : String) :
      Course prober
        [⟨.readMode, .ok (.unknown name)⟩,
          ⟨.warn "ManagementStateUnknown"
            ("Unrecognized operator management state " ++ Text.quote name), ()⟩]
        (.ok ())
  | unlisted {mode : ManagementState} (acting : mode = .managed ∨ mode = .removed)
      (failure : Failure) :
      Course prober [⟨.readMode, .ok mode⟩, ⟨.listManaged, .error failure⟩] (.error failure)
  | removed {lists : ManagedRegistrations} {deletions : List Deletion}
      (names : deletions.map Deletion.name = lists.resolve.names) :
      Course prober
        (⟨.readMode, .ok .removed⟩ :: ⟨.listManaged, .ok lists⟩ ::
          deletions.flatMap Deletion.transcript)
        (aggregate (deletions.filterMap Deletion.failure))
  | managed {lists : ManagedRegistrations} (run : ManagedRun prober lists.resolve) :
      Course prober run.transcript run.result

theorem listManaged_yields_iff (transcript : Transcript calls)
    (result : Except Failure ManagedRegistrations) :
    listManaged.Yields transcript result ↔
      ∃ reply : Except Failure ManagedRegistrations, transcript = [⟨.listManaged, reply⟩] ∧
        result = reply.map ManagedRegistrations.resolve := by
  unfold listManaged
  rw [yields_call_bind_iff]
  constructor
  · intro ran
    obtain ⟨reply, rest, rfl, ended⟩ := ran
    obtain ⟨rfl, rfl⟩ := (Interaction.yields_done_iff _ _ _).mp ended
    exact ⟨reply, rfl, rfl⟩
  · intro assembled
    obtain ⟨reply, rfl, rfl⟩ := assembled
    exact ⟨reply, [], rfl, .done _⟩

theorem syncManaged_yields_iff (prober : Bool) (lists : ManagedRegistrations)
    (transcript : Transcript calls) (result : Except Failure Unit) :
    (syncManaged prober lists).Yields transcript result ↔
      ∃ run : ManagedRun prober lists, transcript = run.exchanges ∧ result = run.result := by
  simp only [syncManaged, Interaction.yields_bind_iff, syncDisabled_yields_iff]
  constructor
  · intro ran
    obtain ⟨_, _, _, rfl, ⟨deletions, names, rfl, rfl⟩, _, answer, rest, rfl, asked, run⟩ := ran
    obtain rfl := (yields_call_iff _ _ _).mp asked
    match answer with
    | .error failure =>
        exact ⟨⟨deletions, .error failure, [], [], rest, _, result, names, .failed failure,
          (updateStatus_yields_iff _ _ _).mp run⟩, rfl, rfl⟩
    | .ok false =>
        exact ⟨⟨deletions, .ok false, [], [], rest, _, result, names, .unready,
          (updateStatus_yields_iff _ _ _).mp run⟩, rfl, rfl⟩
    | .ok true =>
        simp only [Interaction.yields_bind_iff, syncEnabled_yields_iff] at run
        obtain ⟨_, _, reporting, rfl, ⟨attempts, verifying, registered, rfl, verified⟩, run⟩ := run
        exact ⟨⟨deletions, .ok true, attempts, verifying, reporting, _, result, names,
          .ready registered verified, (updateStatus_yields_iff _ _ _).mp run⟩,
          by rw [List.append_assoc]; rfl, rfl⟩
  · intro assembled
    obtain ⟨⟨deletions, answer, attempts, verifying, reporting, outcomes, result, names, gated,
      reported⟩, rfl, rfl⟩ := assembled
    refine ⟨_, _, _, rfl, ⟨deletions, names, rfl, rfl⟩, _, answer, _, rfl,
      (yields_call_iff (.check lists.enabled) _ _).mpr rfl, ?_⟩
    have run := (updateStatus_yields_iff outcomes reporting result).mpr reported
    cases gated with
    | failed failure => exact run
    | unready => exact run
    | ready registered verified =>
        simp only [Interaction.yields_bind_iff, syncEnabled_yields_iff]
        exact ⟨_, _, reporting, (List.append_assoc _ _ _).symm,
          ⟨attempts, verifying, registered, rfl, verified⟩, run⟩

/-- The runs of a cycle are just the ways in which it can go. -/
theorem sync_yields_iff (prober : Bool) (transcript : Transcript calls)
    (result : Except Failure Unit) :
    (sync prober).Yields transcript result ↔ Course prober transcript result := by
  unfold sync
  rw [yields_call_bind_iff]
  constructor
  · intro ran
    obtain ⟨mode, rest, rfl, run⟩ := ran
    match mode with
    | .error failure =>
        obtain ⟨rfl, rfl⟩ := (Interaction.yields_done_iff _ _ _).mp run
        exact .unread failure
    | .ok .unmanaged =>
        obtain ⟨rfl, rfl⟩ := (Interaction.yields_done_iff _ _ _).mp run
        exact .unmanaged
    | .ok (.unknown name) =>
        obtain ⟨_, _, rfl, ended⟩ := (yields_call_bind_iff (.warn _ _) _ _ _).mp run
        obtain ⟨rfl, rfl⟩ := (Interaction.yields_done_iff _ _ _).mp ended
        exact .unknown name
    | .ok .removed =>
        simp only [Interaction.yields_bind_iff, listManaged_yields_iff] at run
        obtain ⟨_, _, rest, rfl, ⟨reply, rfl, rfl⟩, run⟩ := run
        cases reply with
        | error failure =>
            obtain ⟨rfl, rfl⟩ := (Interaction.yields_done_iff _ _ _).mp run
            exact .unlisted (.inr rfl) failure
        | ok lists =>
            obtain ⟨deletions, names, rfl, rfl⟩ := (syncDisabled_yields_iff _ _ _).mp run
            exact .removed names
    | .ok .managed =>
        simp only [Interaction.yields_bind_iff, listManaged_yields_iff] at run
        obtain ⟨_, _, rest, rfl, ⟨reply, rfl, rfl⟩, run⟩ := run
        cases reply with
        | error failure =>
            obtain ⟨rfl, rfl⟩ := (Interaction.yields_done_iff _ _ _).mp run
            exact .unlisted (.inl rfl) failure
        | ok lists =>
            obtain ⟨managed, rfl, rfl⟩ := (syncManaged_yields_iff _ _ _ _).mp run
            exact .managed managed
  · intro course
    have listed : ∀ reply : Except Failure ManagedRegistrations,
        listManaged.Yields [⟨.listManaged, reply⟩] (reply.map ManagedRegistrations.resolve) :=
      fun reply => (listManaged_yields_iff _ _).mpr ⟨reply, rfl, rfl⟩
    cases course with
    | unread failure => exact ⟨_, _, rfl, .done _⟩
    | unmanaged => exact ⟨_, _, rfl, .done _⟩
    | unknown name =>
        exact ⟨_, _, rfl, (yields_call_bind_iff (.warn _ _) _ _ _).mpr ⟨(), [], rfl, .done _⟩⟩
    | unlisted acting failure =>
        refine ⟨_, _, rfl, ?_⟩
        rcases acting with rfl | rfl <;>
          exact (Interaction.yields_bind_iff _ _ _ _).mpr
            ⟨_, _, [], rfl, listed (.error failure), .done _⟩
    | @removed lists deletions names =>
        refine ⟨_, _, rfl, (Interaction.yields_bind_iff _ _ _ _).mpr
          ⟨_, _, _, rfl, listed (.ok lists), ?_⟩⟩
        exact (syncDisabled_yields_iff _ _ _).mpr ⟨deletions, names, rfl, rfl⟩
    | @managed lists run =>
        refine ⟨_, _, rfl, (Interaction.yields_bind_iff _ _ _ _).mpr
          ⟨_, _, _, rfl, listed (.ok lists), ?_⟩⟩
        exact (syncManaged_yields_iff _ _ _ _).mpr ⟨run, rfl, rfl⟩

/-! ## Performances -/

/-- What a cycle did, its result, and the state in which it has ended. -/
structure Performance (σ : Type) where
  transcript : Transcript calls
  result : Except Failure Unit
  state : σ

/-- A cycle that starts in a state, with the answers that this state gives. -/
def perform {σ : Type} (answer : (question : Call) → StateM σ question.Reply) (prober : Bool)
    (state : σ) : Performance σ :=
  let ran := ((sync prober).interpret answer).run state
  { transcript := (sync prober).transcriptIn answer state
    result := ran.1
    state := ran.2 }

theorem course_perform {σ : Type} (answer : (question : Call) → StateM σ question.Reply)
    (prober : Bool) (state : σ) :
    Course prober (perform answer prober state).transcript (perform answer prober state).result :=
  (sync_yields_iff prober _ _).mp (Interaction.yields_transcriptIn (sync prober) state)

/-- A course that the answers of the state allow is how the cycle goes. -/
theorem perform_eq {σ : Type} {answer : (question : Call) → StateM σ question.Reply} {prober : Bool}
    {state final : σ} {transcript : Transcript calls} {result : Except Failure Unit}
    (course : Course prober transcript result)
    (follows : Interaction.Follows answer state transcript final) :
    perform answer prober state = ⟨transcript, result, final⟩ := by
  obtain ⟨transcripts, ran⟩ :=
    Interaction.eq_of_yields_follows ((sync_yields_iff prober _ _).mpr course) follows
  unfold perform
  rw [transcripts, ran]

end Registrar.Cycle
