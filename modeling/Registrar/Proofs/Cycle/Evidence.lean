import Registrar.Proofs.Cycle.Course
/-!
# What a transcript tells

Statements about the runs of a cycle are statements about their transcripts: which instruction was
read, what the source listed, which registrations were changed. Every call belongs to one phase of
the cycle, so what a transcript tells about a phase is told by the exchanges of that phase alone.
-/

set_option autoImplicit false

namespace Registrar.Cycle

/-- The parts of a cycle, in their order. -/
inductive Phase where
  | opening
  | deletion
  | gate
  | application
  | verification
  | report
deriving DecidableEq, Repr

/-- The part of a cycle to which a call belongs. -/
def Call.phase : Call → Phase
  | .readMode | .listManaged | .warn _ _ => .opening
  | .cached _ | .delete _ | .observe .delete => .deletion
  | .check _ => .gate
  | .apply _ | .observe (.apply _) => .application
  | .probe _ => .verification
  | .isShuttingDown | .now | .writeConditions _ | .observe _ => .report

/-- All exchanges of a transcript belong to one part of the cycle. -/
def Within (phase : Phase) (transcript : Transcript calls) : Prop :=
  ∀ exchange ∈ transcript, exchange.question.phase = phase

theorem Within.ne {phase other : Phase} {transcript : Transcript calls}
    (within : Within phase transcript) (different : phase ≠ other) :
    ∀ exchange ∈ transcript, exchange.question.phase ≠ other := by
  intro exchange member same
  exact different ((within exchange member).symm.trans same)

theorem Within.flatMap {β : Type} {phase : Phase} {exchanges : β → Transcript calls}
    (each : ∀ value, Within phase (exchanges value)) (values : List β) :
    Within phase (values.flatMap exchanges) := by
  intro exchange member
  obtain ⟨value, _, member⟩ := List.mem_flatMap.mp member
  exact each value exchange member

theorem Deletion.within (deletion : Deletion) : Within .deletion deletion.transcript := by
  intro exchange member
  cases deletion with
  | absent name =>
      obtain rfl := List.mem_singleton.mp member
      rfl
  | underway name existing deleting =>
      obtain rfl := List.mem_singleton.mp member
      rfl
  | issued name existing live reply =>
      simp only [transcript, List.mem_cons, List.not_mem_nil, or_false] at member
      rcases member with rfl | rfl | rfl <;> rfl

theorem Attempt.within (attempt : Attempt) : Within .application attempt.transcript := by
  obtain ⟨registration, reply⟩ := attempt
  intro exchange member
  cases reply with
  | error failure =>
      obtain rfl := List.mem_singleton.mp member
      rfl
  | ok applied =>
      simp only [transcript, List.mem_cons, List.not_mem_nil, or_false] at member
      rcases member with rfl | rfl <;> rfl

theorem Verified.within {prober : Bool} {registrations : List Registration}
    {application : Application} {verifying : Transcript calls} {result : Except Failure Unit}
    (verified : Verified prober registrations application verifying result) :
    Within .verification verifying := by
  intro exchange member
  cases verified with
  | failed | unserved | unprobed => cases member
  | probed =>
      obtain rfl := List.mem_singleton.mp member
      rfl

theorem Reported.within {outcomes : Outcomes} {reporting : Transcript calls}
    {result : Except Failure Unit} (reported : Reported outcomes reporting result) :
    Within .report reporting := by
  intro exchange member
  cases reported with
  | suppressed =>
      obtain rfl := List.mem_singleton.mp member
      rfl
  | written degradedAt availableAt reply =>
      rcases List.mem_append.mp member with asked | written
      · unfold Outcomes.inquiry at asked
        split at asked
        · obtain rfl := List.mem_singleton.mp asked
          rfl
        · cases asked
      · simp only [Outcomes.writing, List.mem_cons, List.not_mem_nil, or_false] at written
        rcases written with rfl | rfl | rfl | rfl | rfl <;> rfl

theorem Gated.within {prober : Bool} {enabled : List Registration} {deletion : Option Failure}
    {answer : Except Failure Bool} {attempts : List Attempt} {verifying : Transcript calls}
    {outcomes : Outcomes}
    (gated : Gated prober enabled deletion answer attempts verifying outcomes) :
    Within .verification verifying := by
  cases gated with
  | failed | unready =>
      intro exchange member
      cases member
  | ready registered verified => exact verified.within

/-! ## Evidence of one phase -/

/-- Something that exchanges of one phase tell, and no others. -/
structure Evidence (β : Type) where
  phase : Phase
  tell : Exchange calls → Option β
  within : ∀ exchange value, tell exchange = some value → exchange.question.phase = phase := by
    intro exchange value told
    split at told
    · rfl
    · cases told

namespace Evidence

variable {β : Type}

/-- What a transcript tells, in order. -/
def found (evidence : Evidence β) (transcript : Transcript calls) : List β :=
  transcript.filterMap evidence.tell

theorem found_append (evidence : Evidence β) (first last : Transcript calls) :
    evidence.found (first ++ last) = evidence.found first ++ evidence.found last :=
  List.filterMap_append

theorem found_eq_nil (evidence : Evidence β) {transcript : Transcript calls}
    (elsewhere : ∀ exchange ∈ transcript, exchange.question.phase ≠ evidence.phase) :
    evidence.found transcript = [] := by
  refine List.filterMap_eq_nil_iff.mpr ?_
  intro exchange member
  cases told : evidence.tell exchange with
  | none => rfl
  | some value =>
      exact absurd (evidence.within exchange value told) (elsewhere exchange member)

theorem found_append_of_elsewhere (evidence : Evidence β) (past : Transcript calls)
    {later : Transcript calls}
    (elsewhere : ∀ exchange ∈ later, exchange.question.phase ≠ evidence.phase) :
    evidence.found (past ++ later) = evidence.found past := by
  rw [found_append, evidence.found_eq_nil elsewhere, List.append_nil]

/-- Where every value stands for exchanges that tell at most one thing, the values tell it one after
the other. -/
theorem found_flatMap {γ : Type} (evidence : Evidence β) {exchanges : γ → Transcript calls}
    {tell : γ → Option β}
    (each : ∀ value, evidence.found (exchanges value) = (tell value).toList) (values : List γ) :
    evidence.found (values.flatMap exchanges) = values.filterMap tell := by
  induction values with
  | nil => rfl
  | cons value rest ih =>
      rw [List.flatMap_cons, found_append, each, ih, List.filterMap_cons]
      cases tell value <;> rfl

theorem mem_found_of_mem (evidence : Evidence β) {transcript : Transcript calls}
    {exchange : Exchange calls} (member : exchange ∈ transcript) {value : β}
    (told : evidence.tell exchange = some value) : value ∈ evidence.found transcript :=
  List.mem_filterMap.mpr ⟨exchange, member, told⟩

end Evidence

/-! ## The parts of a managed cycle -/

namespace ManagedRun

variable {prober : Bool} {lists : ManagedRegistrations}

def part (run : ManagedRun prober lists) : Phase → Transcript calls
  | .opening => []
  | .deletion => run.deletions.flatMap Deletion.transcript
  | .gate => [⟨.check lists.enabled, run.answer⟩]
  | .application => run.attempts.flatMap Attempt.transcript
  | .verification => run.verifying
  | .report => run.reporting

theorem exchanges_eq (run : ManagedRun prober lists) :
    run.exchanges = run.part .deletion ++ (run.part .gate ++ (run.part .application ++
      (run.part .verification ++ run.part .report))) :=
  rfl

theorem within_part (run : ManagedRun prober lists) (phase : Phase) :
    Within phase (run.part phase) := by
  cases phase with
  | opening =>
      intro exchange member
      cases member
  | deletion => exact Within.flatMap Deletion.within run.deletions
  | gate =>
      intro exchange member
      obtain rfl := List.mem_singleton.mp member
      rfl
  | application => exact Within.flatMap Attempt.within run.attempts
  | verification => exact run.gated.within
  | report => exact run.reported.within

theorem mem_exchanges_iff (run : ManagedRun prober lists) (exchange : Exchange calls) :
    exchange ∈ run.exchanges ↔ exchange ∈ run.part exchange.question.phase := by
  rw [exchanges_eq]
  simp only [List.mem_append]
  constructor
  · intro member
    rcases member with member | member | member | member | member <;>
      exact (run.within_part _ exchange member).symm ▸ member
  · intro member
    cases phase : exchange.question.phase <;> rw [phase] at member
    · cases member
    all_goals simp [member]

/-- What only one phase tells is told by its part of the cycle. -/
theorem found_exchanges (run : ManagedRun prober lists) {β : Type} (evidence : Evidence β) :
    evidence.found run.exchanges = evidence.found (run.part evidence.phase) := by
  have other : ∀ {part : Phase}, part ≠ evidence.phase → evidence.found (run.part part) = [] :=
    fun different => evidence.found_eq_nil ((run.within_part _).ne different)
  have opening : evidence.found (run.part .opening) = [] := rfl
  simp only [exchanges_eq, Evidence.found_append]
  cases phase : evidence.phase <;> rw [phase] at other <;> simp [other, opening]

end ManagedRun

/-! ## Instructions, lists and changes -/

/-- The instruction that was read. -/
def instruction : Evidence ManagementState where
  phase := .opening
  tell
    | ⟨.readMode, .ok mode⟩ => some mode
    | _ => none

abbrev instructions (transcript : Transcript calls) : List ManagementState :=
  instruction.found transcript

/-- The lists that the source returned. -/
def listing : Evidence ManagedRegistrations where
  phase := .opening
  tell
    | ⟨.listManaged, .ok lists⟩ => some lists
    | _ => none

abbrev listings (transcript : Transcript calls) : List ManagedRegistrations :=
  listing.found transcript

theorem instructions_append (past : Transcript calls) {later : Transcript calls}
    (after : ∀ exchange ∈ later, exchange.question.phase ≠ .opening) :
    instructions (past ++ later) = instructions past :=
  instruction.found_append_of_elsewhere past after

theorem listings_append (past : Transcript calls) {later : Transcript calls}
    (after : ∀ exchange ∈ later, exchange.question.phase ≠ .opening) :
    listings (past ++ later) = listings past :=
  listing.found_append_of_elsewhere past after

/-- The name of the registration that an exchange may change, whatever the reply. -/
def mutated? : Exchange calls → Option String
  | ⟨.delete name, _⟩ => some name
  | ⟨.apply desired, _⟩ => some desired.name
  | _ => none

/-- The names of the registrations that a transcript may change, once for each call. -/
def mutations (transcript : Transcript calls) : List String :=
  transcript.filterMap mutated?

theorem phase_of_mutated? (exchange : Exchange calls) (name : String)
    (told : mutated? exchange = some name) :
    exchange.question.phase = .deletion ∨ exchange.question.phase = .application := by
  unfold mutated? at told
  split at told
  · exact .inl rfl
  · exact .inr rfl
  · cases told

/-- Once the lists are known, no instruction is read and nothing is listed any more. -/
theorem ManagedRun.not_opening {prober : Bool} {lists : ManagedRegistrations}
    (run : ManagedRun prober lists) :
    ∀ exchange ∈ run.exchanges, exchange.question.phase ≠ .opening := by
  intro exchange member
  simp only [run.exchanges_eq, List.mem_append] at member
  rcases member with member | member | member | member | member <;>
    exact (run.within_part _).ne (by decide) exchange member

theorem ManagedRun.mem_exchanges_of_mem {prober : Bool} {lists : ManagedRegistrations}
    (run : ManagedRun prober lists.resolve) {exchange : Exchange calls}
    (member : exchange ∈ run.transcript) (later : exchange.question.phase ≠ .opening) :
    exchange ∈ run.exchanges := by
  rcases List.mem_cons.mp member with rfl | member
  · exact absurd rfl later
  · rcases List.mem_cons.mp member with rfl | member
    · exact absurd rfl later
    · exact member

theorem ManagedRun.instructions_transcript {prober : Bool} {lists : ManagedRegistrations}
    (run : ManagedRun prober lists.resolve) : instructions run.transcript = [.managed] :=
  instructions_append [⟨.readMode, .ok .managed⟩, ⟨.listManaged, .ok lists⟩] run.not_opening

theorem ManagedRun.listings_transcript {prober : Bool} {lists : ManagedRegistrations}
    (run : ManagedRun prober lists.resolve) : listings run.transcript = [lists] :=
  listings_append [⟨.readMode, .ok .managed⟩, ⟨.listManaged, .ok lists⟩] run.not_opening

/-- A cycle reads its instruction first, and reads no other one. -/
theorem Course.eq_cons_of_instructed {prober : Bool} {transcript : Transcript calls}
    {result : Except Failure Unit} (course : Course prober transcript result)
    {mode : ManagementState} (instructed : mode ∈ instructions transcript) :
    ∃ rest, transcript = ⟨.readMode, .ok mode⟩ :: rest := by
  cases course with
  | unread => cases instructed
  | unmanaged =>
      obtain rfl := List.mem_singleton.mp instructed
      exact ⟨_, rfl⟩
  | unknown name =>
      obtain rfl := List.mem_singleton.mp instructed
      exact ⟨_, rfl⟩
  | unlisted acting failure =>
      obtain rfl := List.mem_singleton.mp instructed
      exact ⟨_, rfl⟩
  | @removed lists deletions names =>
      have only := instructions_append [⟨.readMode, .ok .removed⟩, ⟨.listManaged, .ok lists⟩]
        ((Within.flatMap Deletion.within deletions).ne (by decide))
      rw [List.cons_append, List.cons_append, List.nil_append] at only
      rw [only] at instructed
      obtain rfl := List.mem_singleton.mp instructed
      exact ⟨_, rfl⟩
  | managed run =>
      rw [run.instructions_transcript] at instructed
      obtain rfl := List.mem_singleton.mp instructed
      exact ⟨_, rfl⟩

/-- A cycle that is to manage lists which it was given goes on as a managed run. -/
theorem Course.exists_managedRun {prober : Bool} {transcript : Transcript calls}
    {result : Except Failure Unit} (course : Course prober transcript result)
    (managed : .managed ∈ instructions transcript) {lists : ManagedRegistrations}
    (listed : lists ∈ listings transcript) :
    ∃ run : ManagedRun prober lists.resolve, transcript = run.transcript ∧ result = run.result := by
  obtain ⟨rest, rfl⟩ := course.eq_cons_of_instructed managed
  cases course with
  | unlisted => cases listed
  | @managed others run =>
      change lists ∈ listings run.transcript at listed
      rw [run.listings_transcript] at listed
      obtain rfl := List.mem_singleton.mp listed
      exact ⟨run, rfl, rfl⟩

theorem mutations_append (first last : Transcript calls) :
    mutations (first ++ last) = mutations first ++ mutations last :=
  List.filterMap_append

/-- Outside of deletions and applies nothing is changed. -/
theorem mutations_eq_nil {phase : Phase} (notDeletion : phase ≠ .deletion)
    (notApplication : phase ≠ .application) {transcript : Transcript calls}
    (within : Within phase transcript) : mutations transcript = [] := by
  refine List.filterMap_eq_nil_iff.mpr ?_
  intro exchange member
  cases told : mutated? exchange with
  | none => rfl
  | some name =>
      rcases phase_of_mutated? exchange name told with deletion | application
      · exact absurd deletion (within.ne notDeletion exchange member)
      · exact absurd application (within.ne notApplication exchange member)

/-- Deletions change at most the registrations whose turn it is, each once. -/
theorem mutations_deletions (deletions : List Deletion) :
    (mutations (deletions.flatMap Deletion.transcript)).Sublist (deletions.map Deletion.name) := by
  induction deletions with
  | nil => exact .slnil
  | cons deletion rest ih =>
      rw [List.flatMap_cons, mutations_append, List.map_cons]
      cases deletion with
      | absent name => exact ih.cons name
      | underway name existing deleting => exact ih.cons name
      | issued name existing live reply => exact ih.cons_cons name

/-- Applies change just the registrations whose turn it is, each once. -/
theorem mutations_attempts (attempts : List Attempt) :
    mutations (attempts.flatMap Attempt.transcript) =
      (attempts.map Attempt.registration).map Registration.name := by
  induction attempts with
  | nil => rfl
  | cons attempt rest ih =>
      obtain ⟨registration, reply⟩ := attempt
      rw [List.flatMap_cons, mutations_append, ih]
      cases reply <;> rfl

theorem ManagedRun.mutations_exchanges {prober : Bool} {lists : ManagedRegistrations}
    (run : ManagedRun prober lists) :
    mutations run.exchanges = mutations (run.deletions.flatMap Deletion.transcript) ++
      (run.attempts.map Attempt.registration).map Registration.name := by
  have gate := mutations_eq_nil (by decide) (by decide) (run.within_part .gate)
  have verification := mutations_eq_nil (by decide) (by decide) (run.within_part .verification)
  have report := mutations_eq_nil (by decide) (by decide) (run.within_part .report)
  simp only [run.exchanges_eq, mutations_append, gate, verification, report, List.nil_append,
    List.append_nil]
  exact congrArg (_ ++ ·) (mutations_attempts run.attempts)

end Registrar.Cycle
