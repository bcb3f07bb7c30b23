import Registrar.Cluster.Objects
import Registrar.Proofs.Failures
import Registrar.Proofs.Repetition
import Registrar.Proofs.World.Keyed
/-!
# Lists in another order

The source may list its registrations in any order. Names do not get into each other's way, and what
depends on several of them is sorted first, so two cycles that differ in the order of the lists
alone leave the same registrations behind, ask the same of others and report the same. Only where
several failures are told one after the other does the order show. If conditions are accepted or
refused for their messages, it can then decide which failure ends the cycle.
-/

set_option autoImplicit false

namespace Registrar.Cycle

open Failure (Shuffled)
open Interaction (Follows)

/-! ## Outcomes -/

theorem shuffled_aggregate_of_leaves {failures others : List Failure}
    (empty : others = [] ↔ failures = [])
    (leaves : (others.flatMap Failure.leaves).Perm (failures.flatMap Failure.leaves)) :
    Shuffled (failureOf (aggregate failures)) (failureOf (aggregate others)) := by
  cases failures with
  | nil =>
      rw [empty.mpr rfl]
      exact .refl _
  | cons failure rest =>
      cases others with
      | nil => cases empty.mp rfl
      | cons other others => exact ⟨rfl, by simpa [aggregate, failureOf] using leaves⟩

theorem isSome_failureOf_aggregate (failures : List Failure) :
    (failureOf (aggregate failures)).isSome = !failures.isEmpty := by
  cases failures <;> rfl

/-- Failures have no other order unless there are several. -/
theorem eq_of_perm_of_few {failures others : List Failure} (few : failures.length ≤ 1)
    (order : others.Perm failures) : others = failures := by
  match failures with
  | [] => exact order.eq_nil
  | [_] => exact List.perm_singleton.mp order

theorem shuffled_aggregate {failures others : List Failure} (order : others.Perm failures) :
    Shuffled (failureOf (aggregate failures)) (failureOf (aggregate others)) :=
  shuffled_aggregate_of_leaves ⟨fun empty => (empty ▸ order).symm.eq_nil,
    fun empty => (empty ▸ order).eq_nil⟩ (order.flatMap_right Failure.leaves)

/-- What is written of some outcomes. -/
def Outcomes.conditions (outcomes : Outcomes) (degradedAt availableAt : String) : List Condition :=
  [outcomes.degraded degradedAt, outcomes.available availableAt]

theorem Outcomes.isOk_resultAfter_eq (outcomes : Outcomes) (reply : Except Failure Unit) :
    (outcomes.resultAfter reply).isOk = (reply.isOk && outcomes.failures.isEmpty) := by
  cases reply with
  | error failure => rfl
  | ok =>
      unfold Outcomes.resultAfter
      cases outcomes.failures <;> rfl

/-- Two cycles come to the same outcomes, up to the order of failures. -/
structure Outcomes.Matches (first last : Outcomes) : Prop where
  deletion : Shuffled first.deletion last.deletion
  check : last.check = first.check
  ready : last.ready = first.ready
  application : Shuffled first.application last.application

namespace Outcomes.Matches

variable {first last : Outcomes}

theorem unworded_degraded (same : first.Matches last) (now : String) :
    (last.degraded now).unworded = (first.degraded now).unworded := by
  unfold Outcomes.degraded
  obtain ⟨before, after⟩ | ⟨_, _, before, after⟩ := same.deletion.none_or_some
  · rw [before, after]
  · rw [before, after]
    rfl

theorem unworded_available (same : first.Matches last) (now : String) :
    (last.available now).unworded = (first.available now).unworded := by
  unfold Outcomes.available
  rw [same.check, same.ready]
  obtain ⟨before, after⟩ | ⟨_, _, before, after⟩ := same.application.none_or_some
  · rw [before, after]
  · rw [before, after]
    cases first.check <;> cases first.ready <;> rfl

theorem unworded_conditions (same : first.Matches last) (degradedAt availableAt : String) :
    (last.conditions degradedAt availableAt).map Condition.unworded =
      (first.conditions degradedAt availableAt).map Condition.unworded := by
  unfold Outcomes.conditions
  simp only [List.map_cons, same.unworded_degraded, same.unworded_available]

/-- Two cycles that tell the same of deletes and of applies tell the same. -/
theorem eq_of_told (same : first.Matches last) (deletion : last.deletion = first.deletion)
    (application : last.application = first.application) : last = first := by
  obtain ⟨_, check, ready, _⟩ := same
  cases first
  cases last
  simp_all

/-- The failures that are told come in another order, if any. -/
theorem shuffled_failures (same : first.Matches last) :
    Shuffled (failureOf (aggregate first.failures)) (failureOf (aggregate last.failures)) := by
  have empty : ∀ {failure other : Option Failure}, Shuffled failure other →
      (other.toList = [] ↔ failure.toList = []) := by
    intro failure other shuffled
    obtain ⟨rfl, rfl⟩ | ⟨_, _, rfl, rfl⟩ := shuffled.none_or_some
    · rfl
    · exact iff_of_false nofun nofun
  unfold Outcomes.failures
  rw [same.check, same.ready]
  split
  · exact shuffled_aggregate_of_leaves (empty same.deletion) same.deletion.leaves
  · refine shuffled_aggregate_of_leaves ?_ ?_
    · simp only [List.append_eq_nil_iff, empty same.deletion, empty same.application]
    · simp only [List.flatMap_append]
      exact (same.deletion.leaves.append (.refl _)).append same.application.leaves

theorem shuffled_resultAfter (same : first.Matches last) (reply : Except Failure Unit) :
    Shuffled (failureOf (first.resultAfter reply)) (failureOf (last.resultAfter reply)) := by
  cases reply with
  | error failure => exact .refl _
  | ok => exact same.shuffled_failures

/-- Where no failure is told, all is told in the same words. -/
theorem conditions_eq_of_clean (same : first.Matches last) (clean : first.failures = [])
    {degradedAt availableAt : String} :
    last.conditions degradedAt availableAt = first.conditions degradedAt availableAt := by
  have absent : ∀ {failure other : Option Failure}, Shuffled failure other →
      failure.toList = [] → failure = none ∧ other = none := by
    intro failure other shuffled unfailed
    obtain same | ⟨_, _, rfl, -⟩ := shuffled.none_or_some
    · exact same
    · cases unfailed
  unfold Outcomes.failures at clean
  unfold Outcomes.conditions Outcomes.degraded Outcomes.available
  rw [same.check, same.ready]
  split at clean
  · obtain ⟨deletion, deletionAgain⟩ := absent same.deletion clean
    next unready => simp only [unready, deletion, deletionAgain, if_true]
  · obtain ⟨before, applied⟩ := List.append_eq_nil_iff.mp clean
    obtain ⟨deletion, deletionAgain⟩ :=
      absent same.deletion (List.append_eq_nil_iff.mp before).1
    obtain ⟨application, applicationAgain⟩ := absent same.application applied
    simp only [deletion, deletionAgain, application, applicationAgain]

theorem isOk_resultAfter (same : first.Matches last) {reply replyAgain : Except Failure Unit}
    (alike : first.failures = [] → replyAgain = reply) :
    (last.resultAfter replyAgain).isOk = (first.resultAfter reply).isOk := by
  have empty : last.failures.isEmpty = first.failures.isEmpty := by
    have both := same.shuffled_failures.isSome
    rw [isSome_failureOf_aggregate, isSome_failureOf_aggregate] at both
    exact Bool.not_inj both
  rw [isOk_resultAfter_eq, isOk_resultAfter_eq, empty]
  cases told : first.failures with
  | nil => rw [alike told]
  | cons failure rest => simp

end Outcomes.Matches

theorem Gated.matches {prober : Bool} {enabled others : List Registration}
    {deletion deletionAgain : Option Failure} {answer : Except Failure Bool}
    {attempts attemptsAgain : List Attempt} {verifying : Transcript calls}
    {outcomes outcomesAgain : Outcomes}
    (gated : Gated prober enabled deletion answer attempts verifying outcomes)
    (again : Gated prober others deletionAgain answer attemptsAgain verifying outcomesAgain)
    (deleted : Shuffled deletion deletionAgain) (tried : attemptsAgain.Perm attempts) :
    outcomes.Matches outcomesAgain ∧
      ((attempts.filterMap Attempt.failure).length ≤ 1 →
        outcomesAgain.application = outcomes.application) := by
  have refused := tried.filterMap Attempt.failure
  have verdicts : verdict (attemptsAgain.filterMap Attempt.message ++
      (discoveries verifying).flatMap Prod.snd) =
        verdict (attempts.filterMap Attempt.message ++
          (discoveries verifying).flatMap Prod.snd) :=
    verdict_perm ((tried.filterMap Attempt.message).append (.refl _))
  refine ⟨⟨?_, ?_, ?_, ?_⟩, fun few => ?_⟩
  · rw [gated.outcomes_eq.1, again.outcomes_eq.1]
    exact deleted
  · rw [gated.outcomes_eq.1, again.outcomes_eq.1]
  · rw [gated.outcomes_eq.1, again.outcomes_eq.1]
  · rw [gated.application_eq, again.application_eq, verdicts]
    exact (shuffled_aggregate refused).or _
  · rw [gated.application_eq, again.application_eq, verdicts, eq_of_perm_of_few few refused]

/-! ## What a cycle comes to in a world -/

section World

variable {σ τ : Type} {world : KeyedWorld σ τ} {lists other : ManagedRegistrations} {prober : Bool}
  {first last : Situation σ τ}

/-- Whether discovery is asked, and its reply, follow from how the applies went. -/
theorem Verified.eq_of_probed {registrations : List Registration} {application : Application}
    {verifying : Transcript calls} {result : Except Failure Unit}
    (verified : Verified prober registrations application verifying result)
    (followed : Follows (world.answer lists) first verifying last) :
    let asked := application.failures.isEmpty && application.messages.isEmpty && prober
    let versions := groupVersions registrations
    let answered := (Situation.outside (world.missing versions)).run first
    verifying = (if asked then [⟨.probe versions, answered.1⟩] else []) ∧
      last = if asked then answered.2 else first := by
  intro asked versions answered
  cases verified with
  | failed some =>
      obtain rfl := Interaction.follows_nil_iff.mp followed
      simp [asked, some]
  | unserved none some =>
      obtain rfl := Interaction.follows_nil_iff.mp followed
      simp [asked, some]
  | unprobed none served unwired =>
      obtain rfl := Interaction.follows_nil_iff.mp followed
      simp [asked, unwired]
  | probed missing none served wired =>
      obtain ⟨rfl, ended⟩ := Interaction.follows_cons_iff.mp followed
      obtain rfl := Interaction.follows_nil_iff.mp ended
      have all : asked = true := by simp [asked, none, served, wired]
      rw [if_pos all, if_pos all]
      exact ⟨rfl, rfl⟩

theorem Gated.eq_of_probed {enabled : List Registration} {deletion : Option Failure}
    {answer : Except Failure Bool} {attempts : List Attempt} {verifying : Transcript calls}
    {outcomes : Outcomes}
    (gated : Gated prober enabled deletion answer attempts verifying outcomes)
    (followed : Follows (world.answer lists) first verifying last) :
    let asked := isOpen answer && ((attempts.filterMap Attempt.failure).isEmpty &&
      (attempts.filterMap Attempt.message).isEmpty && prober)
    let versions := groupVersions enabled
    let answered := (Situation.outside (world.missing versions)).run first
    verifying = (if asked then [⟨.probe versions, answered.1⟩] else []) ∧
      last = if asked then answered.2 else first := by
  cases gated with
  | failed | unready =>
      obtain rfl := Interaction.follows_nil_iff.mp followed
      exact ⟨rfl, rfl⟩
  | ready registered verified => exact verified.eq_of_probed followed

/-- Nothing is kept back: the clock is read twice, and then the conditions are received or not. -/
theorem Reported.eq_of_received {outcomes : Outcomes} {reporting : Transcript calls}
    {result : Except Failure Unit} (reported : Reported outcomes reporting result)
    (followed : Follows (world.answer lists) first reporting last) :
    ∃ degradedAt availableAt moment reply,
      world.readings.run first = ((degradedAt, availableAt), moment) ∧
        (Situation.outside (world.receive (outcomes.conditions degradedAt availableAt))).run
          moment = (reply, last) ∧
        reporting = outcomes.inquiry ++ outcomes.writing degradedAt availableAt reply ∧
        result = outcomes.resultAfter reply := by
  cases reported with
  | suppressed failed =>
      cases followed with
      | cons asked ended => cases congrArg Prod.fst asked
  | written degradedAt availableAt reply =>
      obtain ⟨middle, asked, told⟩ := Interaction.follows_append_iff.mp followed
      have unmoved : middle = first := by
        unfold Outcomes.inquiry at asked
        split at asked
        · exact Interaction.follows_nil_iff.mp (Interaction.follows_cons_iff.mp asked).2
        · exact Interaction.follows_nil_iff.mp asked
      subst unmoved
      simp only [Outcomes.writing, Interaction.follows_cons_iff,
        Interaction.follows_nil_iff] at told
      obtain ⟨rfl, rfl, -, -, rfl, rfl⟩ := told
      exact ⟨_, _, _, _, rfl, rfl, rfl, rfl⟩

/-- Two reports out of one situation get their times from the same readings, and then one and the
same situation decides what becomes of each. -/
structure ReceivedAlike (world : KeyedWorld σ τ) (once again : Outcomes)
    (reporting reportingAgain : Transcript calls) (result resultAgain : Except Failure Unit)
    (degradedAt availableAt : String) (moment : Situation σ τ) : Prop where
  written : reporting = once.inquiry ++ once.writing degradedAt availableAt
    (world.replyIn moment (once.conditions degradedAt availableAt))
  ended : result = once.resultAfter
    (world.replyIn moment (once.conditions degradedAt availableAt))
  writtenAgain : reportingAgain = again.inquiry ++ again.writing degradedAt availableAt
    (world.replyIn moment (again.conditions degradedAt availableAt))
  endedAgain : resultAgain = again.resultAfter
    (world.replyIn moment (again.conditions degradedAt availableAt))

theorem Reported.receivedAlike {once again : Outcomes}
    {reporting reportingAgain : Transcript calls} {result resultAgain : Except Failure Unit}
    {lastAgain : Situation σ τ}
    (reported : Reported once reporting result)
    (reportedAgain : Reported again reportingAgain resultAgain)
    (followed : Follows (world.answer lists) first reporting last)
    (followedAgain : Follows (world.answer other) first reportingAgain lastAgain) :
    lastAgain.held = last.held ∧ lastAgain.reads = last.reads ∧
      ∃ degradedAt availableAt moment, ReceivedAlike world once again reporting reportingAgain
        result resultAgain degradedAt availableAt moment := by
  obtain ⟨degradedAt, availableAt, moment, reply, clock, received, written, ended⟩ :=
    reported.eq_of_received followed
  obtain ⟨_, _, _, replyAgain, clockAgain, receivedAgain, writtenAgain, endedAgain⟩ :=
    reportedAgain.eq_of_received followedAgain
  rw [clock] at clockAgain
  cases clockAgain
  obtain ⟨rfl, rfl⟩ := Prod.mk.inj received
  obtain ⟨rfl, rfl⟩ := Prod.mk.inj receivedAgain
  exact ⟨rfl, rfl, degradedAt, availableAt, moment, written, ended, writtenAgain, endedAgain⟩

/-! ## Two cycles -/

namespace ManagedRun

theorem exists_stages (run : ManagedRun prober lists.resolve)
    (followed : Follows (world.answer lists) first run.transcript last) :
    ∃ deleted gated applied verified,
      Follows (world.answer lists) first (run.deletions.flatMap Deletion.transcript) deleted ∧
      ((Readiness.check world.home lists.resolve.enabled).interpret world.read).run deleted =
        (run.answer, gated) ∧
      Follows (world.answer lists) gated (run.attempts.flatMap Attempt.transcript) applied ∧
      Follows (world.answer lists) applied run.verifying verified ∧
      Follows (world.answer lists) verified run.reporting last := by
  obtain ⟨-, read⟩ := Interaction.follows_cons_iff.mp followed
  obtain ⟨-, listed⟩ := Interaction.follows_cons_iff.mp read
  obtain ⟨deleted, deletions, rest⟩ := Interaction.follows_append_iff.mp listed
  obtain ⟨answered, rest⟩ := Interaction.follows_cons_iff.mp rest
  obtain ⟨applied, attempts, rest⟩ := Interaction.follows_append_iff.mp rest
  obtain ⟨verified, verifying, reporting⟩ := Interaction.follows_append_iff.mp rest
  exact ⟨deleted, _, applied, verified, deletions, Prod.ext answered rfl, attempts, verifying,
    reporting⟩

/-- What two cycles share whose lists differ in their order. -/
structure Shares (world : KeyedWorld σ τ) (once : ManagedRun prober lists.resolve)
    (again : ManagedRun prober other.resolve) (last lastAgain : Situation σ τ) : Prop where
  held : lastAgain.held = last.held
  reads : lastAgain.reads = last.reads
  verifying : again.verifying = once.verifying
  outcomes : once.outcomes.Matches again.outcomes
  deletion : (once.deletions.filterMap Deletion.failure).length ≤ 1 →
    again.outcomes.deletion = once.outcomes.deletion
  application : (once.attempts.filterMap Attempt.failure).length ≤ 1 →
    again.outcomes.application = once.outcomes.application
  reported : ∃ degradedAt availableAt moment,
    ReceivedAlike world once.outcomes again.outcomes once.reporting again.reporting once.result
      again.result degradedAt availableAt moment

theorem shares {once : ManagedRun prober lists.resolve} {again : ManagedRun prober other.resolve}
    {lastAgain : Situation σ τ} (rearranged : lists.Rearranged other)
    (followed : Follows (world.answer lists) first once.transcript last)
    (followedAgain : Follows (world.answer other) first again.transcript lastAgain) :
    Shares world once again last lastAgain := by
  obtain ⟨deleted, gated, applied, verified, deletions, answered, attempts, verifying, reporting⟩ :=
    once.exists_stages followed
  obtain ⟨deletedAgain, gatedAgain, appliedAgain, verifiedAgain, deletionsAgain, answeredAgain,
    attemptsAgain, verifyingAgain, reportingAgain⟩ := again.exists_stages followedAgain
  obtain ⟨leftovers, rfl⟩ := KeyedWorld.deletions_perm once.nodup_names_deletions
    (by rw [once.names, again.names]; exact rearranged.disabled_resolve.map Registration.name)
    deletions deletionsAgain
  -- the gate reads the same services
  have same : Readiness.check world.home other.resolve.enabled =
      Readiness.check world.home lists.resolve.enabled :=
    congrArg Readiness.checkServices
      (Readiness.backingServices_perm world.home rearranged.enabled_resolve)
  rw [same, answered] at answeredAgain
  obtain ⟨answer, rfl⟩ := Prod.mk.inj answeredAgain
  have registrations : (again.attempts.map Attempt.registration).Perm
      (once.attempts.map Attempt.registration) := by
    rw [once.gated.registrations_eq, again.gated.registrations_eq, answer]
    split
    · exact rearranged.enabled_resolve
    · exact .refl _
  obtain ⟨tried, rfl⟩ :=
    KeyedWorld.attempts_perm once.nodup_names_attempts registrations attempts attemptsAgain
  -- discovery is asked alike, because as many applies were refused and as many are not served
  have probed := once.gated.eq_of_probed verifying
  have probedAgain := again.gated.eq_of_probed verifyingAgain
  rw [← answer, (tried.filterMap Attempt.failure).isEmpty_eq,
    (tried.filterMap Attempt.message).isEmpty_eq,
    groupVersions_perm rearranged.enabled_resolve] at probedAgain
  obtain rfl := probedAgain.2.trans probed.2.symm
  have verifying := probedAgain.1.trans probed.1.symm
  have gatedAgain := again.gated
  rw [← answer, verifying] at gatedAgain
  obtain ⟨matched, application⟩ := once.gated.matches gatedAgain
    (shuffled_aggregate (leftovers.filterMap Deletion.failure)) tried
  have deletion : (once.deletions.filterMap Deletion.failure).length ≤ 1 →
      again.outcomes.deletion = once.outcomes.deletion := by
    intro few
    rw [once.gated.outcomes_eq.1, again.gated.outcomes_eq.1,
      eq_of_perm_of_few few (leftovers.filterMap Deletion.failure)]
  obtain ⟨held, reads, reported⟩ :=
    once.reported.receivedAlike again.reported reporting reportingAgain
  exact ⟨held, reads, verifying, matched, deletion, application, reported⟩

end ManagedRun

theorem exists_managedRun (world : KeyedWorld σ τ) (lists : ManagedRegistrations) (prober : Bool)
    (start : Situation σ τ) :
    ∃ run : ManagedRun prober lists.resolve,
      (perform (world.answer lists) prober start).transcript = run.transcript ∧
        (perform (world.answer lists) prober start).result = run.result :=
  (course_perform (world.answer lists) prober start).exists_managedRun (.head _) (.head _)

/-- What was written, but for the messages. -/
def wordless (transcript : Transcript calls) : List (List Condition) :=
  (writings transcript).map fun writing => writing.1.map Condition.unworded

/-- Whether what was written was accepted. -/
def replies (transcript : Transcript calls) : List (Except Failure Unit) :=
  (writings transcript).map Prod.snd

/-- What was written about whether the enabled registrations are served. -/
def availableMessages (transcript : Transcript calls) : List (Option String) :=
  (writings transcript).map fun writing =>
    (Condition.find? writing.1 Condition.availableType).map Condition.message

/-- The failures that a result tells, through all layers. -/
def leavesOf (result : Except Failure Unit) : List Failure :=
  (failureOf result).toList.flatMap Failure.leaves

/-- Two cycles leave the same registrations behind and have asked the same of others, and they
report the same but for the order in which failures are told. -/
structure Indifferent (first last : Performance (Situation σ τ)) : Prop where
  store : last.state.held = first.state.held
  /-- The services whose endpoints were read, in order. -/
  reads : last.state.reads = first.state.reads
  /-- The versions that discovery was asked for, with what it lacks. -/
  probes : discoveries last.transcript = discoveries first.transcript
  written : wordless last.transcript = wordless first.transcript
  succeeded : last.result.isOk = first.result.isOk
  /-- Unless several applies failed, the whole message is the same. -/
  available : (refusals first.transcript).length ≤ 1 →
    availableMessages last.transcript = availableMessages first.transcript
  /-- Unless several deletes or several applies failed, every word is the same, and so is the
  reply. -/
  verbatim : (leftovers first.transcript).length ≤ 1 → (refusals first.transcript).length ≤ 1 →
    writings last.transcript = writings first.transcript
  retriable : replies last.transcript = replies first.transcript →
    (failureOf last.result).map Failure.isRetriable =
      (failureOf first.result).map Failure.isRetriable
  leaves : replies last.transcript = replies first.transcript →
    (leavesOf last.result).Perm (leavesOf first.result)

theorem writings_of_written {run : ManagedRun prober lists.resolve}
    {degradedAt availableAt : String} {reply : Except Failure Unit}
    (written : run.reporting =
      run.outcomes.inquiry ++ run.outcomes.writing degradedAt availableAt reply) :
    writings run.transcript = [(run.outcomes.conditions degradedAt availableAt, reply)] := by
  rw [run.writings_transcript, written, Outcomes.writings_writing]
  rfl

theorem find?_available (outcomes : Outcomes) (degradedAt availableAt : String) :
    Condition.find? (outcomes.conditions degradedAt availableAt) Condition.availableType =
      some (outcomes.available availableAt) := by
  have distinct : Condition.degradedType ≠ Condition.availableType := by decide
  simp [Condition.find?, Outcomes.conditions, distinct]

theorem ManagedRun.Shares.indifferent {once : ManagedRun prober lists.resolve}
    {again : ManagedRun prober other.resolve} {state stateAgain : Situation σ τ}
    (shares : Shares world once again state stateAgain) :
    Indifferent ⟨once.transcript, once.result, state⟩
        ⟨again.transcript, again.result, stateAgain⟩ ∧
      (world.IgnoresMessages → replies again.transcript = replies once.transcript) := by
  obtain ⟨degradedAt, availableAt, moment, ⟨written, ended, writtenAgain, endedAgain⟩⟩ :=
    shares.reported
  have told := writings_of_written written
  have toldAgain := writings_of_written writtenAgain
  have unworded := shares.outcomes.unworded_conditions degradedAt availableAt
  have shuffled : replies again.transcript = replies once.transcript →
      Shuffled (failureOf once.result) (failureOf again.result) := by
    intro same
    rw [replies, replies, told, toldAgain] at same
    have alike := (List.cons_eq_cons.mp same).1
    dsimp only at alike
    rw [ended, endedAgain, alike]
    exact shares.outcomes.shuffled_resultAfter _
  refine ⟨⟨shares.held, shares.reads, ?_, ?_, ?_, fun few => ?_, fun fewDeletes fewApplies => ?_,
    fun same => (shuffled same).isRetriable, fun same => (shuffled same).leaves⟩, fun ignores => ?_⟩
  · rw [once.discoveries_transcript, again.discoveries_transcript, shares.verifying]
  · rw [wordless, wordless, told, toldAgain, List.map_singleton, List.map_singleton, unworded]
  · rw [ended, endedAgain]
    refine shares.outcomes.isOk_resultAfter fun clean => ?_
    rw [shares.outcomes.conditions_eq_of_clean clean]
  · rw [once.refusals_transcript] at few
    rw [availableMessages, availableMessages, told, toldAgain, List.map_singleton,
      List.map_singleton, find?_available, find?_available]
    unfold Outcomes.available
    rw [shares.application few, shares.outcomes.check, shares.outcomes.ready]
  · rw [once.leftovers_transcript] at fewDeletes
    rw [once.refusals_transcript] at fewApplies
    rw [told, toldAgain,
      shares.outcomes.eq_of_told (shares.deletion fewDeletes) (shares.application fewApplies)]
  · rw [replies, replies, told, toldAgain, List.map_singleton, List.map_singleton]
    exact congrArg (fun reply => [reply]) (ignores _ _ _ unworded)

/-- However the source orders its lists, a cycle leaves the same store, reads the same endpoints in
the same order, asks discovery for the same versions, writes the same statuses and reasons, and
succeeds or not. If its report is answered alike, as it is where messages do not count, then the
result is the same up to the order of failures. -/
theorem order_of_lists_is_immaterial (world : KeyedWorld σ τ) (rearranged : lists.Rearranged other)
    (prober : Bool) (start : Situation σ τ) :
    let first := perform (world.answer lists) prober start
    let last := perform (world.answer other) prober start
    Indifferent first last ∧
      (world.IgnoresMessages → replies last.transcript = replies first.transcript) := by
  have followed : ∀ lists, Follows (world.answer lists) start
      (perform (world.answer lists) prober start).transcript
      (perform (world.answer lists) prober start).state :=
    fun lists => Interaction.follows_transcriptIn (sync prober) start
  obtain ⟨once, transcript, result⟩ := exists_managedRun world lists prober start
  obtain ⟨again, transcriptAgain, resultAgain⟩ := exists_managedRun world other prober start
  have shares := ManagedRun.shares rearranged (transcript ▸ followed lists)
    (transcriptAgain ▸ followed other)
  have indifferent := shares.indifferent
  rwa [← transcript, ← result, ← transcriptAgain, ← resultAgain] at indifferent

end World

/-- A world in which no delete succeeds. -/
def sampleKeyedWorld : KeyedWorld (Option Registration) Unit where
  cached _ held := held
  delete name held := (.error (.io (name ++ " is locked")), held)
  apply desired _ := (.ok ⟨desired, true⟩, some desired)
  home := "registry"
  endpoints _ _ := pure (.ok none)
  missing _ _ := pure []
  now _ := pure "10:00"
  receive _ _ := pure (.ok ())

/-- The changes are made in another order, in which the two failures are told, and that is all. -/
theorem order_of_lists_is_immaterial_sample :
    let lists : ManagedRegistrations :=
      ⟨[sampleRegistration "v1", sampleRegistration "v2"],
        [sampleRegistration "v1alpha1", sampleRegistration "v1beta1", sampleRegistration "v1"]⟩
    let other : ManagedRegistrations := ⟨lists.enabled.reverse, lists.disabled.reverse⟩
    let start : Situation (Option Registration) Unit :=
      { held := Registration.first? lists.disabled, around := () }
    let first := perform (sampleKeyedWorld.answer lists) true start
    let last := perform (sampleKeyedWorld.answer other) true start
    lists.Rearranged other ∧ sampleKeyedWorld.IgnoresMessages ∧ Indifferent first last ∧
      (leavesOf last.result).Perm (leavesOf first.result) ∧ (leavesOf first.result).length = 2 ∧
      mutations first.transcript = ["v1alpha1.metrics.example.io", "v1beta1.metrics.example.io",
        "v1.metrics.example.io", "v2.metrics.example.io"] ∧
      mutations last.transcript = ["v1beta1.metrics.example.io", "v1alpha1.metrics.example.io",
        "v2.metrics.example.io", "v1.metrics.example.io"] := by
  intro lists other start first last
  have rearranged : lists.Rearranged other :=
    ⟨by decide, by decide, List.reverse_perm _, List.reverse_perm _⟩
  have ignores : sampleKeyedWorld.IgnoresMessages := fun _ _ _ _ => rfl
  obtain ⟨indifferent, alike⟩ :=
    order_of_lists_is_immaterial sampleKeyedWorld rearranged true start
  exact ⟨rearranged, ignores, indifferent, indifferent.leaves (alike ignores),
    by decide +kernel, by decide +kernel, by decide +kernel⟩

/-- The resource of an operator that has reported two failed deletes. -/
def reportedOperator : Operator :=
  let deletes := Failure.aggregate
    [.io "v1alpha1.metrics.example.io is locked", .io "v1beta1.metrics.example.io is locked"]
  let outcomes : Outcomes :=
    { deletion := some deletes, check := none, ready := true, application := none }
  { Operator.named "cluster" with status := some ⟨outcomes.conditions "09:00" "09:00", none⟩ }

/-- A server that shows this resource, and to which nothing gets through but a read. -/
def answerReads : (question : Cluster.Question) → StateM Unit question.Reply
  | .exchange request =>
      pure (if request.method = .get then .ok ⟨200, .json reportedOperator.toJson⟩
        else .error "connection refused")
  | .cached _ => pure none
  | .manifest => pure none
  | .isShuttingDown => pure false
  | .now => pure "10:00"
  | .observe _ => pure ()

/-- The same world, but conditions are written to that server. -/
def comparingWorld : KeyedWorld (Option Registration) Unit :=
  { sampleKeyedWorld with
    receive := fun conditions _ =>
      (Cluster.writeConditions "cluster" conditions).interpret answerReads }

/-- Whoever writes conditions compares them with their messages first. In the order that was
reported last nothing has to be sent, and in the other order the failure to send it is all that is
told. -/
theorem order_shows_where_messages_count :
    let lists : ManagedRegistrations :=
      ⟨[], [sampleRegistration "v1alpha1", sampleRegistration "v1beta1"]⟩
    let other : ManagedRegistrations := ⟨[], lists.disabled.reverse⟩
    let start : Situation (Option Registration) Unit :=
      { held := Registration.first? lists.disabled, around := () }
    let first := perform (comparingWorld.answer lists) false start
    let last := perform (comparingWorld.answer other) false start
    lists.Rearranged other ∧
      (failureOf last.result).map Failure.isRetriable ≠
        (failureOf first.result).map Failure.isRetriable ∧
      ¬ (leavesOf last.result).Perm (leavesOf first.result) := by
  intro lists other start first last
  have rearranged : lists.Rearranged other :=
    ⟨by decide, by decide, .refl _, List.reverse_perm _⟩
  have fewer : (leavesOf last.result).length ≠ (leavesOf first.result).length := by
    decide +kernel
  exact ⟨rearranged, by decide +kernel, fun order => fewer order.length_eq⟩

end Registrar.Cycle
