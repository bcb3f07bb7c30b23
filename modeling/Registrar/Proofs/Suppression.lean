import Registrar.Proofs.Contents
import Registrar.Proofs.Gate
import Registrar.Proofs.Reporting
/-!
# A shutdown suppresses at most the report

Two cycles that start in the same state and differ only in the shutdown signal do the same work. The
signal can change at any moment, before the first call and after every one. All that depends on it is
whether failures are reported as conditions or in the result alone, and that is decided by the state
of the signal when the work is done.
-/

set_option autoImplicit false

namespace Registrar.Cycle

open Interaction (Follows)

/-! ## Cycles under a signal -/

section Signal

variable {σ : Type}

/-- Answers from a state, with the signal as it is after so many calls. -/
def answerUnder (answer : (question : Call) → StateM σ question.Reply) (signal : Nat → Shutdown) :
    (question : Call) → StateM (σ × Nat) question.Reply
  | .isShuttingDown =>
      modifyGet fun (state, made) => ((signal made).isShuttingDown, (state, made + 1))
  | question =>
      modifyGet fun (state, made) =>
        let (reply, next) := (answer question).run state
        (reply, (next, made + 1))

/-- A cycle that starts in a state, under a signal. -/
def performUnder (answer : (question : Call) → StateM σ question.Reply) (signal : Nat → Shutdown)
    (prober : Bool) (state : σ) : Performance σ :=
  let performance := perform (answerUnder answer signal) prober (state, 0)
  { performance with state := performance.state.1 }

variable {answer : (question : Call) → StateM σ question.Reply} {signal other : Nat → Shutdown}

/-- Only the question for the signal has to do with the signal. -/
theorem answerUnder_eq {question : Call} (elsewhere : question ≠ .isShuttingDown) :
    answerUnder answer signal question = answerUnder answer other question := by
  cases question <;> first | rfl | exact absurd rfl elsewhere

theorem next_answerUnder_eq (question : Call) (state : σ × Nat) :
    ((answerUnder answer signal question).run state).2 =
      ((answerUnder answer other question).run state).2 := by
  cases question <;> rfl

theorem made_answerUnder (question : Call) (state : σ × Nat) :
    ((answerUnder answer signal question).run state).2.2 = state.2 + 1 := by
  cases question <;> rfl

theorem course_performUnder (prober : Bool) (state : σ) :
    Course prober (performUnder answer signal prober state).transcript
      (performUnder answer signal prober state).result :=
  course_perform (answerUnder answer signal) prober (state, 0)

/-- The reply on the signal is the state of the signal at that moment. -/
theorem reply_of_follows {start : σ} {made : Nat} {before after : Transcript calls} {reply : Bool}
    {final : σ × Nat}
    (followed : Follows (answerUnder answer signal) (start, made)
      (before ++ ⟨.isShuttingDown, reply⟩ :: after) final) :
    reply = (signal (made + before.length)).isShuttingDown := by
  induction before generalizing start made with
  | nil =>
      cases followed with
      | cons answered _ => exact (congrArg Prod.fst answered).symm
  | cons exchange before ih =>
      obtain ⟨question, earlier⟩ := exchange
      cases followed with
      | @cons _ _ _ next _ _ answered followed =>
          have counted := @made_answerUnder σ answer signal question (start, made)
          rw [answered] at counted
          obtain ⟨state, moment⟩ := next
          obtain rfl : moment = made + 1 := counted
          rw [List.length_cons, ← Nat.add_assoc, Nat.add_right_comm]
          exact ih followed

/-- What no call of the report touches is as before after any part of it. -/
theorem eq_of_follows_report {β : Type} {view : σ → β}
    (apart : ∀ question : Call, question.phase = .report →
      ∀ state, view ((answer question).run state).2 = view state)
    {transcript : Transcript calls} (within : Within .report transcript) {first last : σ × Nat}
    (followed : Follows (answerUnder answer signal) first transcript last) :
    view last.1 = view first.1 := by
  induction transcript generalizing first with
  | nil =>
      cases followed
      rfl
  | cons exchange rest ih =>
      obtain ⟨here, later⟩ := List.forall_mem_cons.mp within
      obtain ⟨question, reply⟩ := exchange
      cases followed with
      | cons answered followed =>
          rw [ih later followed]
          have moved := congrArg (fun ran => view ran.2.1) answered
          rw [← moved]
          cases question with
          | isShuttingDown => rfl
          | _ => exact apart _ here first.1

end Signal

/-! ## Work and setbacks -/

/-- What a cycle does before it reports, with the replies. -/
def work (transcript : Transcript calls) : Transcript calls :=
  transcript.filter fun exchange => exchange.question.phase ≠ .report

/-- What the metrics were told. -/
def observations (transcript : Transcript calls) : List Observation :=
  transcript.filterMap fun exchange =>
    match exchange.question with
    | .observe observation => some observation
    | _ => none

/-- A phase that has failed, introduced by what it was about. -/
structure Setback where
  introduction : String
  failure : Failure

/-- A failure that reads like a setback: its introduction, and then the failure of the phase. -/
def Setback.asFailure (setback : Setback) : Failure :=
  .unavailable (setback.introduction ++ setback.failure.message)

theorem message_aggregate (members : List Failure) :
    (Failure.aggregate members).message = Failure.joinMessages (members.map Failure.message) := by
  rw [← Failure.messages_eq_map]
  rfl

/-- The phases that have failed, in the order of the cycle. -/
def setbacks (transcript : Transcript calls) : List Setback :=
  ((failureOf (aggregate (leftovers transcript))).toList.map
    (⟨"failed to delete disabled APIs: ", ·⟩)) ++
  ((gatings transcript).filterMap fun gating =>
    (checkFailure gating.2).map (⟨"failed to check precondition for enabled APIs: ", ·⟩)) ++
  ((applicationFailure transcript).toList.map (⟨"failed to reconcile enabled APIs: ", ·⟩))

/-- The work on some lists was done, a phase of it has failed, and the process was shutting down when
it came to the report. -/
structure Silenced (signal : Nat → Shutdown) (transcript : Transcript calls) : Prop where
  managed : .managed ∈ instructions transcript
  listed : listings transcript ≠ []
  failed : setbacks transcript ≠ []
  shuttingDown : (signal (work transcript).length).isShuttingDown = true

/-- Nothing is reported but in the result, which tells all setbacks. -/
structure Suppressed (transcript : Transcript calls) (result : Except Failure Unit) : Prop where
  unwritten : writings transcript = []
  gauges : ∀ metrics : Metrics,
    (metrics.observeAll (observations transcript)).conditions = metrics.conditions
  told : result = .error (.shuttingDown
    ("the operator is shutting down, skipping updating conditions, err = " ++
      (Failure.aggregate ((setbacks transcript).map Setback.asFailure)).message))

theorem mem_observations (observation : Observation) (transcript : Transcript calls) :
    observation ∈ observations transcript ↔
      ∃ reply, ⟨.observe observation, reply⟩ ∈ transcript := by
  unfold observations
  rw [List.mem_filterMap]
  constructor
  · intro found
    obtain ⟨⟨question, reply⟩, member, told⟩ := found
    cases question with
    | observe other =>
        obtain rfl : other = observation := by simpa using told
        exact ⟨reply, member⟩
    | _ => cases told
  · intro found
    obtain ⟨reply, member⟩ := found
    exact ⟨_, member, rfl⟩

/-- The gauges of conditions change only when a condition is told. -/
theorem conditions_observeAll (metrics : Metrics) {observed : List Observation}
    (untold : ∀ observation ∈ observed, ∀ type holds,
      observation ≠ .conditionStatus type holds) :
    (metrics.observeAll observed).conditions = metrics.conditions := by
  induction observed generalizing metrics with
  | nil => rfl
  | cons observation rest ih =>
      obtain ⟨here, later⟩ := List.forall_mem_cons.mp untold
      refine (ih (metrics.observe observation) later).trans ?_
      cases observation with
      | conditionStatus type holds => exact absurd rfl (here type holds)
      | _ => rfl

theorem work_append (first last : Transcript calls) :
    work (first ++ last) = work first ++ work last :=
  List.filter_append ..

theorem work_eq_self {transcript : Transcript calls}
    (elsewhere : ∀ exchange ∈ transcript, exchange.question.phase ≠ .report) :
    work transcript = transcript :=
  List.filter_eq_self.mpr fun exchange member => decide_eq_true (elsewhere exchange member)

theorem work_eq_nil {transcript : Transcript calls} (within : Within .report transcript) :
    work transcript = [] :=
  List.filter_eq_nil_iff.mpr fun exchange member => by simp [within exchange member]

/-- A report is either suppressed or written. -/
theorem Reported.suppressed_or_written {outcomes : Outcomes} {reporting : Transcript calls}
    {result : Except Failure Unit} (reported : Reported outcomes reporting result) :
    (outcomes.failed = true ∧ reporting = [⟨.isShuttingDown, true⟩] ∧
        result = .error outcomes.shutdownFailure) ∨
      ∃ degradedAt availableAt reply,
        reporting = outcomes.inquiry ++ outcomes.writing degradedAt availableAt reply := by
  cases reported with
  | suppressed failed => exact .inl ⟨failed, rfl, rfl⟩
  | written degradedAt availableAt reply => exact .inr ⟨degradedAt, availableAt, reply, rfl⟩

theorem not_mem_writing (outcomes : Outcomes) (degradedAt availableAt : String)
    (reply : Except Failure Unit) (asked : Bool) :
    ⟨.isShuttingDown, asked⟩ ∉ outcomes.writing degradedAt availableAt reply := by
  simp [Outcomes.writing]

/-- The question for the signal is the first one of a report. -/
theorem Reported.eq_nil_of_asked {outcomes : Outcomes} {reporting : Transcript calls}
    {result : Except Failure Unit} (reported : Reported outcomes reporting result)
    {before after : Transcript calls} {reply : Bool}
    (split : reporting = before ++ ⟨.isShuttingDown, reply⟩ :: after) : before = [] := by
  cases before with
  | nil => rfl
  | cons first rest =>
      have later : ⟨.isShuttingDown, reply⟩ ∈ rest ++ ⟨.isShuttingDown, reply⟩ :: after := by simp
      rcases reported.suppressed_or_written with ⟨_, same, _⟩ |
        ⟨degradedAt, availableAt, written, same⟩
      · rw [split, List.cons_append] at same
        rw [(List.cons_eq_cons.mp same).2] at later
        cases later
      · refine absurd ?_ (not_mem_writing outcomes degradedAt availableAt written reply)
        rw [split, List.cons_append] at same
        unfold Outcomes.inquiry at same
        split at same
        · rwa [(List.cons_eq_cons.mp same).2] at later
        · rw [List.nil_append] at same
          rw [← same]
          exact .tail _ later

/-- When the signal is on, its question is all of a report, and there are failures to keep back. -/
theorem Reported.kept_of_asked {outcomes : Outcomes} {reporting : Transcript calls}
    {result : Except Failure Unit} (reported : Reported outcomes reporting result)
    {rest : Transcript calls} (asked : reporting = ⟨.isShuttingDown, true⟩ :: rest) :
    outcomes.failed = true ∧ rest = [] ∧ result = .error outcomes.shutdownFailure := by
  rcases reported.suppressed_or_written with ⟨failed, same, told⟩ | ⟨_, _, _, same⟩
  · rw [asked] at same
    exact ⟨failed, (List.cons_eq_cons.mp same).2, told⟩
  · rw [asked, Outcomes.inquiry] at same
    split at same <;> cases same

namespace ManagedRun

variable {prober : Bool} {lists : ManagedRegistrations}

/-- All of a managed cycle but its report. -/
def working (run : ManagedRun prober lists.resolve) : Transcript calls :=
  ⟨.readMode, .ok .managed⟩ :: ⟨.listManaged, .ok lists⟩ ::
    (run.part .deletion ++ (run.part .gate ++ (run.part .application ++ run.part .verification)))

theorem transcript_eq_append (run : ManagedRun prober lists.resolve) :
    run.transcript = run.working ++ run.reporting := by
  simp [transcript, working, exchanges_eq, part]

theorem not_report_of_mem_working (run : ManagedRun prober lists.resolve) :
    ∀ exchange ∈ run.working, exchange.question.phase ≠ .report := by
  intro exchange member
  simp only [working, List.mem_cons, List.mem_append] at member
  rcases member with rfl | rfl | member | member | member | member
  · exact (by decide : Phase.opening ≠ .report)
  · exact (by decide : Phase.opening ≠ .report)
  all_goals exact (run.within_part _).ne (by decide) exchange member

theorem work_transcript (run : ManagedRun prober lists.resolve) :
    work run.transcript = run.working := by
  rw [run.transcript_eq_append, work_append, work_eq_self run.not_report_of_mem_working,
    work_eq_nil run.reported.within, List.append_nil]

/-- The setbacks that a transcript tells are those that the cycle reports. -/
theorem causes_eq (run : ManagedRun prober lists.resolve) :
    run.outcomes.causes =
      (setbacks run.transcript).map fun setback =>
        setback.introduction ++ setback.failure.message := by
  have outcomes := run.gated.outcomes_eq.1
  rw [run.application_eq, ← run.leftovers_transcript] at outcomes
  rw [outcomes]
  unfold setbacks
  rw [run.gatings_transcript]
  cases failed : checkFailure run.answer <;> simp [Outcomes.causes, failed, Function.comp_def]

theorem failed_iff (run : ManagedRun prober lists.resolve) :
    run.outcomes.failed = true ↔ setbacks run.transcript ≠ [] := by
  have causes := congrArg List.length run.causes_eq
  rw [List.length_map] at causes
  rw [← List.length_pos_iff, ← causes]
  unfold Outcomes.failed Outcomes.causes
  cases run.outcomes.deletion <;> cases run.outcomes.check <;>
    cases run.outcomes.application <;> simp

/-- A text that tells setbacks reads like an aggregate of them. -/
theorem shutdownFailure_eq (run : ManagedRun prober lists.resolve) :
    run.outcomes.shutdownFailure = .shuttingDown
      ("the operator is shutting down, skipping updating conditions, err = " ++
        (Failure.aggregate ((setbacks run.transcript).map Setback.asFailure)).message) := by
  have told : run.outcomes.causes =
      ((setbacks run.transcript).map Setback.asFailure).map Failure.message := by
    rw [run.causes_eq, List.map_map]
    rfl
  rw [Outcomes.shutdownFailure, Outcomes.joinCauses_eq, told, message_aggregate]

variable {σ : Type} {answer : (question : Call) → StateM σ question.Reply}
  {signal : Nat → Shutdown}

/-- A cycle keeps its report back just if a phase has failed and, when the work is done, the signal
is on. -/
theorem silenced_iff (run : ManagedRun prober lists.resolve) {state : σ} {final : σ × Nat}
    (followed : Follows (answerUnder answer signal) (state, 0) run.transcript final) :
    Silenced signal run.transcript ↔ ∃ rest, run.reporting = ⟨.isShuttingDown, true⟩ :: rest := by
  have asked : ∀ {reply rest}, run.reporting = ⟨.isShuttingDown, reply⟩ :: rest →
      reply = (signal run.working.length).isShuttingDown := by
    intro reply rest begun
    rw [run.transcript_eq_append, begun] at followed
    have replied := reply_of_follows followed
    rwa [Nat.zero_add] at replied
  constructor
  · intro silenced
    have shuttingDown := silenced.shuttingDown
    rw [run.work_transcript] at shuttingDown
    rcases run.reported.suppressed_or_written with ⟨_, same, _⟩ | ⟨_, _, _, same⟩
    · exact ⟨[], same⟩
    · rw [Outcomes.inquiry, if_pos (run.failed_iff.mpr silenced.failed)] at same
      have off := asked same
      rw [shuttingDown] at off
      cases off
  · intro kept
    obtain ⟨rest, begun⟩ := kept
    refine ⟨?_, ?_, run.failed_iff.mp (run.reported.kept_of_asked begun).1, ?_⟩
    · rw [run.instructions_transcript]
      exact .head _
    · rw [run.listings_transcript]
      exact List.cons_ne_nil _ _
    · rw [run.work_transcript]
      exact (asked begun).symm

/-- A report that is kept back leaves the conditions and their gauges alone. -/
theorem suppressed (run : ManagedRun prober lists.resolve) {rest : Transcript calls}
    (begun : run.reporting = ⟨.isShuttingDown, true⟩ :: rest) :
    Suppressed run.transcript run.result := by
  obtain ⟨failed, rfl, told⟩ := run.reported.kept_of_asked begun
  refine ⟨?_, ?_, told.trans (congrArg Except.error run.shutdownFailure_eq)⟩
  · rw [run.writings_transcript, begun]
    rfl
  · intro metrics
    refine conditions_observeAll metrics ?_
    intro observation member type holds same
    obtain ⟨reply, member⟩ := (mem_observations _ _).mp member
    rw [run.transcript_eq_append, begun, List.mem_append] at member
    rcases member with member | member
    · exact run.not_report_of_mem_working _ member (same ▸ rfl)
    · simp at member

/-- A report that is not kept back is written, once. -/
theorem written (run : ManagedRun prober lists.resolve)
    (going : ¬ ∃ rest, run.reporting = ⟨.isShuttingDown, true⟩ :: rest) :
    ∃ conditions reply, writings run.transcript = [(conditions, reply)] := by
  rw [run.writings_transcript]
  rcases run.reported.suppressed_or_written with ⟨_, same, _⟩ | ⟨_, _, reply, same⟩
  · exact absurd ⟨[], same⟩ going
  · rw [same]
    unfold Outcomes.inquiry
    split <;> exact ⟨_, reply, rfl⟩

end ManagedRun

theorem Course.working_of_asked {prober : Bool} {transcript : Transcript calls}
    {result : Except Failure Unit} (course : Course prober transcript result)
    {before after : Transcript calls} {reply : Bool}
    (split : transcript = before ++ ⟨.isShuttingDown, reply⟩ :: after) :
    ∃ (lists : ManagedRegistrations) (run : ManagedRun prober lists.resolve),
      transcript = run.transcript ∧ run.working = before ∧
        run.reporting = ⟨.isShuttingDown, reply⟩ :: after := by
  have member : ⟨.isShuttingDown, reply⟩ ∈ transcript := by simp [split]
  rcases course.managed_or_idle with ⟨lists, run, same⟩ | early
  · refine ⟨lists, run, same, ?_⟩
    rw [same, run.transcript_eq_append] at split
    rcases List.append_eq_append_iff.mp split with ⟨rest, longer, reporting⟩ |
      ⟨rest, shorter, asked⟩
    · obtain rfl := run.reported.eq_nil_of_asked reporting
      exact ⟨(longer.trans (List.append_nil _)).symm, reporting⟩
    · cases rest with
      | nil => exact ⟨shorter.trans (List.append_nil _), asked.symm⟩
      | cons exchange rest =>
          obtain ⟨rfl, _⟩ := List.cons_eq_cons.mp asked
          have inside : ⟨.isShuttingDown, reply⟩ ∈ run.working := by simp [shorter]
          exact absurd rfl (run.not_report_of_mem_working _ inside)
  · rcases early _ member with phase | phase <;> cases phase

/-! ## Two cycles -/

/-- Of two cycles under two signals the first one has done the same work as the other, and its report
is missing only if it was kept back because of failures. -/
structure Undeterred {σ β : Type} (store : σ → β) (signal other : Nat → Shutdown)
    (first last : Performance σ) : Prop where
  work : work first.transcript = work last.transcript
  store : store first.state = store last.state
  suppressed : Silenced signal first.transcript → Suppressed first.transcript first.result
  written : ¬ Silenced signal first.transcript → .managed ∈ instructions first.transcript →
    listings first.transcript ≠ [] →
    ∃ conditions reply, writings first.transcript = [(conditions, reply)]
  /-- Where neither report is kept back there is no difference, also if one signal is never on. -/
  same : ¬ Silenced signal first.transcript → ¬ Silenced other last.transcript → first = last
  /-- Without the instruction to manage there is no difference at all. -/
  unmanaged : .managed ∉ instructions first.transcript → first = last

variable {σ : Type} {answer : (question : Call) → StateM σ question.Reply}

theorem silenced_performUnder_iff {signal : Nat → Shutdown} {prober : Bool} {state : σ}
    {lists : ManagedRegistrations} {run : ManagedRun prober lists.resolve}
    (same : (performUnder answer signal prober state).transcript = run.transcript) :
    Silenced signal (performUnder answer signal prober state).transcript ↔
      ∃ rest, run.reporting = ⟨.isShuttingDown, true⟩ :: rest := by
  have followed : Follows (answerUnder answer signal) (state, 0)
      (performUnder answer signal prober state).transcript _ :=
    Interaction.follows_transcriptIn (sync prober) (state, 0)
  rw [same] at followed ⊢
  exact run.silenced_iff followed

theorem suppressed_of_silenced {signal : Nat → Shutdown} {prober : Bool} {state : σ}
    (silenced : Silenced signal (performUnder answer signal prober state).transcript) :
    Suppressed (performUnder answer signal prober state).transcript
      (performUnder answer signal prober state).result := by
  obtain ⟨lists, listed⟩ := List.exists_mem_of_ne_nil _ silenced.listed
  obtain ⟨run, same, result⟩ :=
    (course_performUnder prober state).exists_managedRun silenced.managed listed
  obtain ⟨rest, begun⟩ := (silenced_performUnder_iff same).mp silenced
  rw [same, result]
  exact run.suppressed begun

theorem written_of_going {signal : Nat → Shutdown} {prober : Bool} {state : σ}
    (going : ¬ Silenced signal (performUnder answer signal prober state).transcript)
    (managed : .managed ∈ instructions (performUnder answer signal prober state).transcript)
    (listed : listings (performUnder answer signal prober state).transcript ≠ []) :
    ∃ conditions reply,
      writings (performUnder answer signal prober state).transcript = [(conditions, reply)] := by
  obtain ⟨lists, listed⟩ := List.exists_mem_of_ne_nil _ listed
  obtain ⟨run, same, _⟩ := (course_performUnder prober state).exists_managedRun managed listed
  rw [silenced_performUnder_iff same] at going
  rw [same]
  exact run.written going

theorem reply_eq_false_of_going {signal : Nat → Shutdown} {prober : Bool} {state : σ}
    {lists : ManagedRegistrations} {run : ManagedRun prober lists.resolve}
    (same : (performUnder answer signal prober state).transcript = run.transcript)
    (going : ¬ Silenced signal (performUnder answer signal prober state).transcript)
    {reply : Bool} {rest : Transcript calls}
    (reporting : run.reporting = ⟨.isShuttingDown, reply⟩ :: rest) : reply = false := by
  cases reply with
  | false => rfl
  | true => exact absurd ((silenced_performUnder_iff same).mpr ⟨rest, reporting⟩) going

/-- For all collaborators, whatever their state: a shutdown, at whatever moment it comes, leaves the
work of a cycle and the registrations as they would be without it. It keeps back the report of
failures, which are then told in the result, and nothing else. -/
theorem shutdown_suppresses_only_report {β : Type} {store : σ → β}
    (apart : ∀ question : Call, question.phase = .report →
      ∀ state, store ((answer question).run state).2 = store state)
    (prober : Bool) (state : σ) (signal other : Nat → Shutdown) :
    Undeterred store signal other (performUnder answer signal prober state)
      (performUnder answer other prober state) := by
  rcases Interaction.agree_or_part (@next_answerUnder_eq σ answer signal other)
    (sync prober) (state, 0) with
    ⟨transcripts, runs⟩ | ⟨common, question, middle, rest, otherRest, parted, split, otherSplit,
      followed, otherFollowed⟩
  · have equal :
        performUnder answer signal prober state = performUnder answer other prober state := by
      simp only [performUnder, perform, transcripts, runs]
    exact ⟨congrArg (fun run => work run.transcript) equal,
      congrArg (fun run => store run.state) equal, suppressed_of_silenced, written_of_going,
      fun _ _ => equal, fun _ => equal⟩
  · -- the runs part where the signal is looked at, which is when the work is done
    obtain rfl : question = .isShuttingDown :=
      Classical.byContradiction fun elsewhere => parted (by rw [answerUnder_eq elsewhere])
    obtain ⟨lists, run, same, working, reporting⟩ :=
      (course_performUnder prober state).working_of_asked split
    obtain ⟨otherLists, otherRun, otherSame, otherWorking, otherReporting⟩ :=
      (course_performUnder prober state).working_of_asked otherSplit
    refine ⟨?_, ?_, suppressed_of_silenced, written_of_going, ?_, ?_⟩
    · rw [same, otherSame, run.work_transcript, otherRun.work_transcript, working, otherWorking]
    · have stored := eq_of_follows_report apart (reporting ▸ run.reported.within) followed
      have otherStored :=
        eq_of_follows_report apart (otherReporting ▸ otherRun.reported.within) otherFollowed
      exact stored.trans otherStored.symm
    · intro going otherGoing
      have off := reply_eq_false_of_going same going reporting
      have otherOff := reply_eq_false_of_going otherSame otherGoing otherReporting
      exact absurd (off.trans otherOff.symm) parted
    · intro unmanaged
      rw [same, run.instructions_transcript] at unmanaged
      exact absurd (.head _) unmanaged

/-- A signal that is triggered once so many calls were made. -/
def triggeredAt (moment made : Nat) : Shutdown :=
  if moment ≤ made then Shutdown.trigger {} else {}

/-- A shutdown that comes while a delete is under way keeps back that it has failed; the other delete
and the apply after it are made all the same. -/
theorem shutdown_suppresses_only_report_sample :
    let kept := performUnder World.answer (triggeredAt 4) false World.sampleWorld
    let calm := performUnder World.answer (triggeredAt 100) false World.sampleWorld
    Silenced (triggeredAt 4) kept.transcript ∧ Suppressed kept.transcript kept.result ∧
      work kept.transcript = work calm.transcript ∧ kept.state.store = calm.state.store := by
  have apart : ∀ question : Call, question.phase = .report →
      ∀ world : World, ((World.answer question).run world).2.store = world.store := by
    intro question report world
    cases question <;> first | rfl | cases report
  have undeterred := shutdown_suppresses_only_report apart false World.sampleWorld
    (triggeredAt 4) (triggeredAt 100)
  have silenced : Silenced (triggeredAt 4)
      (performUnder World.answer (triggeredAt 4) false World.sampleWorld).transcript :=
    ⟨by decide, List.cons_ne_nil _ _, List.cons_ne_nil _ _, by decide⟩
  exact ⟨silenced, undeterred.suppressed silenced, undeterred.work, undeterred.store⟩

end Registrar.Cycle
