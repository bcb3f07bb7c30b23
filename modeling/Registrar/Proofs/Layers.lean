import Mathlib.Logic.Relation
import Registrar.Proofs.Controller.Retries
import Registrar.Proofs.Failures
import Registrar.Proofs.Suppression
/-!
# Layers of aggregates

The failures of a phase are collected in an aggregate, and a cycle collects its phases in another.
A layer around a single failure shows neither in the text nor in the retry class, wherever inside of
a failure it is. So a cycle in which one thing went wrong tells this thing alone, unless it keeps
its report back during a shutdown.
-/

set_option autoImplicit false

namespace Registrar

namespace Failure

/-! ## Layers around a single failure -/

/-- An aggregate of a single member, the failure itself or inside of it, gives way to its member. -/
inductive Unwraps : Failure → Failure → Prop where
  | here (member : Failure) : Unwraps (.aggregate [member]) member
  | inside (before after : List Failure) {failure other : Failure} :
      Unwraps failure other →
      Unwraps (.aggregate (before ++ failure :: after)) (.aggregate (before ++ other :: after))

theorem Unwraps.message_eq {failure other : Failure} (unwraps : Unwraps failure other) :
    other.message = failure.message := by
  induction unwraps with
  | here member =>
      rw [Cycle.message_aggregate]
      rfl
  | inside before after _ ih =>
      simp only [Cycle.message_aggregate, List.map_append, List.map_cons, ih]

theorem Unwraps.leaves_eq {failure other : Failure} (unwraps : Unwraps failure other) :
    other.leaves = failure.leaves := by
  induction unwraps with
  | here member => simp only [leaves_aggregate, List.flatMap_singleton]
  | inside before after _ ih =>
      simp only [leaves_aggregate, List.flatMap_append, List.flatMap_cons, ih]

theorem Unwraps.isRetriable_eq {failure other : Failure} (unwraps : Unwraps failure other) :
    other.isRetriable = failure.isRetriable := by
  rw [← any_leaves other, unwraps.leaves_eq, any_leaves]

structure ReadsLike (failure other : Failure) : Prop where
  message : failure.message = other.message
  isRetriable : failure.isRetriable = other.isRetriable

theorem readsLike_of_unwraps {failure other : Failure}
    (unwraps : Relation.ReflTransGen Unwraps failure other) : ReadsLike failure other := by
  induction unwraps with
  | refl => exact ⟨rfl, rfl⟩
  | tail _ last ih =>
      exact ⟨ih.message.trans last.message_eq.symm, ih.isRetriable.trans last.isRetriable_eq.symm⟩

theorem joinMessages_of_many {messages : List String} (many : 2 ≤ messages.length) :
    joinMessages messages = "[" ++ ", ".intercalate messages ++ "]" := by
  match messages with
  | [] | [_] => simp at many
  | first :: second :: rest =>
      rw [← listMessages_eq_intercalate]
      rfl

/-- What a failure tells, with aggregates inside of it or not. -/
structure Transparent (failure : Failure) : Prop where
  retriable_iff : failure.isRetriable = true ↔
    ∃ part, PartOf part failure ∧ (∀ members, part ≠ .aggregate members) ∧ BlamesCluster part
  unwrapped : ∀ other, Relation.ReflTransGen Unwraps failure other → ReadsLike failure other
  joined : ∀ members, failure = .aggregate members → 2 ≤ members.length →
    failure.message = "[" ++ ", ".intercalate (members.map message) ++ "]"

theorem transparent (failure : Failure) : Transparent failure := by
  refine ⟨?_, fun other => readsLike_of_unwraps, ?_⟩
  · rw [isRetriable_iff, IsTransient]
    refine exists_congr fun part => and_congr_right fun _ => ?_
    constructor
    · intro blames
      cases blames <;> exact ⟨by simp, by constructor⟩
    · exact And.right
  · intro members same many
    rw [same, Cycle.message_aggregate]
    exact joinMessages_of_many (by rwa [List.length_map])

/-! ## Layers over a row of failures -/

/-- Failures in a row, next to the same row with an aggregate over some stretches of it. -/
inductive Layered : List Failure → List Failure → Prop where
  | nil : Layered [] []
  | bare (failure : Failure) {failures layered : List Failure} :
      Layered failures layered → Layered (failure :: failures) (failure :: layered)
  | gathered {stretch failures layered : List Failure} : stretch ≠ [] →
      Layered failures layered → Layered (stretch ++ failures) (.aggregate stretch :: layered)

namespace Layered

theorem refl (failures : List Failure) : Layered failures failures := by
  induction failures with
  | nil => exact .nil
  | cons failure rest ih => exact .bare failure ih

theorem append {first last firstLayered lastLayered : List Failure}
    (begun : Layered first firstLayered) (ended : Layered last lastLayered) :
    Layered (first ++ last) (firstLayered ++ lastLayered) := by
  induction begun with
  | nil => exact ended
  | bare failure _ ih => exact .bare failure ih
  | gathered some _ ih =>
      rw [List.append_assoc]
      exact .gathered some ih

theorem aggregate (failures : List Failure) :
    Layered failures (Cycle.failureOf (Registrar.aggregate failures)).toList := by
  cases failures with
  | nil => exact .nil
  | cons failure rest =>
      have whole := Layered.gathered (List.cons_ne_nil failure rest) .nil
      rwa [List.append_nil] at whole

theorem eq_nil {failures layered : List Failure} (layers : Layered failures layered)
    (none : failures = []) : layered = [] := by
  cases layers with
  | nil => rfl
  | bare => cases none
  | gathered some => exact absurd (List.append_eq_nil_iff.mp none).1 some

/-- Over a row of one failure there is at most one layer. -/
theorem exists_unwraps {failures layered : List Failure} {failure : Failure}
    (layers : Layered failures layered) (alone : failures = [failure]) :
    ∃ whole, layered = [whole] ∧ Relation.ReflTransGen Unwraps whole failure := by
  cases layers with
  | nil => cases alone
  | bare other rest =>
      obtain ⟨rfl, none⟩ := List.cons_eq_cons.mp alone
      exact ⟨other, by rw [rest.eq_nil none], .refl⟩
  | @gathered stretch _ _ some rest =>
      rcases List.append_eq_singleton_iff.mp alone with ⟨none, _⟩ | ⟨rfl, none⟩
      · exact absurd none some
      · exact ⟨_, by rw [rest.eq_nil none], .single (.here failure)⟩

end Layered

end Failure

namespace Cycle

open Failure (Layered Unwraps ReadsLike)

/-! ## What went wrong in a cycle -/

/-- Why there was no instruction, or no lists. -/
def beginning : Evidence Failure where
  phase := .opening
  tell
    | ⟨.readMode, .error failure⟩ => some failure
    | ⟨.listManaged, .error failure⟩ => some failure
    | _ => none
  within := by
    intro exchange failure told
    split at told
    · rfl
    · rfl
    · cases told

/-- What kept the enabled registrations from being served: the applies that were refused or, where
none was, all that was found missing, as one failure. -/
def shortfalls (transcript : Transcript calls) : List Failure :=
  match refusals transcript with
  | [] => (failureOf (verdict (complaints transcript ++
      (discoveries transcript).flatMap Prod.snd))).toList
  | refused => refused

/-- The things that went wrong in a cycle, in its order: its beginning, deletes, the check, applies
or what they brought about, and the report. -/
def mishaps (transcript : Transcript calls) : List Failure :=
  beginning.found transcript ++ leftovers transcript ++
    (gatings transcript).filterMap (fun gating => checkFailure gating.2) ++
    shortfalls transcript ++
    (writings transcript).filterMap fun writing => failureOf writing.2

theorem layered_shortfalls (transcript : Transcript calls) :
    Layered (shortfalls transcript) (applicationFailure transcript).toList := by
  unfold shortfalls applicationFailure
  cases refusals transcript with
  | nil => exact .refl _
  | cons failure rest => exact .aggregate (failure :: rest)

namespace ManagedRun

variable {prober : Bool} {lists : ManagedRegistrations}

theorem mishaps_transcript (run : ManagedRun prober lists.resolve) :
    mishaps run.transcript = leftovers run.transcript ++ (checkFailure run.answer).toList ++
      shortfalls run.transcript ++
      (writings run.reporting).filterMap fun writing => failureOf writing.2 := by
  have begun : beginning.found run.transcript = [] :=
    beginning.found_append_of_elsewhere
      [⟨.readMode, .ok .managed⟩, ⟨.listManaged, .ok lists⟩] run.not_opening
  unfold mishaps
  rw [begun, run.gatings_transcript, run.writings_transcript]
  cases failed : checkFailure run.answer <;> simp [failed]

/-- The phases of a cycle put at most one layer over what went wrong in them. -/
theorem layered_failures (run : ManagedRun prober lists.resolve) :
    Layered (leftovers run.transcript ++ (checkFailure run.answer).toList ++
      shortfalls run.transcript) run.outcomes.failures := by
  rw [run.failures_eq]
  exact ((Layered.aggregate _).append (.refl _)).append (layered_shortfalls _)

theorem failure_setbacks (run : ManagedRun prober lists.resolve) :
    (setbacks run.transcript).map Setback.failure = run.outcomes.failures := by
  rw [run.failures_eq, setbacks, run.gatings_transcript]
  cases failed : checkFailure run.answer <;> simp [failed, Function.comp_def]

end ManagedRun

/-! ## Cycles in which one thing went wrong -/

theorem Reported.suppressed_of_mem {outcomes : Outcomes} {reporting : Transcript calls}
    {result : Except Failure Unit} (reported : Reported outcomes reporting result)
    (asked : ⟨.isShuttingDown, true⟩ ∈ reporting) :
    reporting = [⟨.isShuttingDown, true⟩] ∧ result = .error outcomes.shutdownFailure := by
  rcases reported.suppressed_or_written with ⟨_, same, told⟩ |
    ⟨degradedAt, availableAt, reply, same⟩
  · exact ⟨same, told⟩
  · rw [same, List.mem_append] at asked
    rcases asked with asked | asked
    · unfold Outcomes.inquiry at asked
      split at asked <;> simp at asked
    · exact absurd asked (not_mem_writing outcomes degradedAt availableAt reply true)

/-- What a cycle tells if nothing else went wrong in it than this failure. -/
structure ToldAlone (transcript : Transcript calls) (result : Except Failure Unit)
    (failure : Failure) : Prop where
  reported : ⟨.isShuttingDown, true⟩ ∉ transcript → ∃ told, result = .error told ∧
    Relation.ReflTransGen Unwraps told failure ∧ ReadsLike told failure
  /-- A report that is kept back is replaced by a text, which is not worth a quick retry. -/
  suppressed : ⟨.isShuttingDown, true⟩ ∈ transcript → ∃ setback, setbacks transcript = [setback] ∧
    result = .error (.shuttingDown
      ("the operator is shutting down, skipping updating conditions, err = " ++
        (setback.introduction ++ failure.message)))

namespace ManagedRun

variable {prober : Bool} {lists : ManagedRegistrations}

/-- Unless it is the report that was refused, one phase failed, with at most one layer more. -/
theorem exists_whole (run : ManagedRun prober lists.resolve) {failure : Failure}
    (alone : mishaps run.transcript = [failure])
    (unrefused : (writings run.reporting).filterMap (fun writing => failureOf writing.2) = []) :
    ∃ whole, run.outcomes.failures = [whole] ∧ Relation.ReflTransGen Unwraps whole failure := by
  rw [run.mishaps_transcript, unrefused, List.append_nil] at alone
  exact run.layered_failures.exists_unwraps alone

theorem exists_told (run : ManagedRun prober lists.resolve) {failure : Failure}
    (alone : mishaps run.transcript = [failure])
    (going : ⟨.isShuttingDown, true⟩ ∉ run.transcript) :
    ∃ told, run.result = .error told ∧ Relation.ReflTransGen Unwraps told failure := by
  have reportGoing : (⟨.isShuttingDown, true⟩ : Exchange calls) ∉ run.reporting := by
    intro member
    exact going (run.transcript_eq_append ▸ List.mem_append_right _ member)
  obtain ⟨degradedAt, availableAt, reply, written, ended⟩ :=
    run.reported.written_of_going reportGoing
  cases reply with
  | error refused =>
      rw [run.mishaps_transcript, written] at alone
      rcases List.append_eq_singleton_iff.mp alone with ⟨_, last⟩ | ⟨_, none⟩
      · obtain rfl : refused = failure := (List.cons_eq_cons.mp last).1
        exact ⟨refused, ended, .refl⟩
      · cases none
  | ok =>
      obtain ⟨whole, failures, unwraps⟩ := run.exists_whole alone (by rw [written]; rfl)
      have result : run.result = aggregate run.outcomes.failures := ended
      rw [failures] at result
      exact ⟨_, result, .head (.here whole) unwraps⟩

theorem exists_setback (run : ManagedRun prober lists.resolve) {failure : Failure}
    (alone : mishaps run.transcript = [failure])
    (kept : ⟨.isShuttingDown, true⟩ ∈ run.transcript) :
    ∃ setback, setbacks run.transcript = [setback] ∧
      run.result = .error (.shuttingDown
        ("the operator is shutting down, skipping updating conditions, err = " ++
          (setback.introduction ++ failure.message))) := by
  have asked : (⟨.isShuttingDown, true⟩ : Exchange calls) ∈ run.reporting := by
    rw [run.transcript_eq_append, List.mem_append] at kept
    rcases kept with early | late
    · exact absurd rfl (run.not_report_of_mem_working _ early)
    · exact late
  obtain ⟨reporting, result⟩ := run.reported.suppressed_of_mem asked
  obtain ⟨whole, failures, unwraps⟩ := run.exists_whole alone (by rw [reporting]; rfl)
  rw [← run.failure_setbacks] at failures
  obtain ⟨setback, only, rfl⟩ := List.map_eq_singleton_iff.mp failures
  refine ⟨setback, only, result.trans ?_⟩
  rw [Outcomes.shutdownFailure, run.causes_eq, only,
    ← (Failure.readsLike_of_unwraps unwraps).message]
  rfl

theorem toldAlone (run : ManagedRun prober lists.resolve) {failure : Failure}
    (alone : mishaps run.transcript = [failure]) :
    ToldAlone run.transcript run.result failure := by
  refine ⟨fun going => ?_, run.exists_setback alone⟩
  obtain ⟨told, result, unwraps⟩ := run.exists_told alone going
  exact ⟨told, result, unwraps, Failure.readsLike_of_unwraps unwraps⟩

end ManagedRun

/-- Before there is a gate, only the beginning and deletes can go wrong. -/
theorem mishaps_of_early {transcript : Transcript calls}
    (early : ∀ exchange ∈ transcript, Early exchange) :
    mishaps transcript = beginning.found transcript ++ leftovers transcript := by
  have untold : ∀ {β : Type} (evidence : Evidence β), evidence.phase ≠ .opening →
      evidence.phase ≠ .deletion → evidence.found transcript = [] := by
    intro β evidence notOpening notDeletion
    refine evidence.found_eq_nil fun exchange member => ?_
    rcases early exchange member with phase | phase
    · exact phase ▸ notOpening.symm
    · exact phase ▸ notDeletion.symm
  have unapplied : applications transcript = [] := untold application (by decide) (by decide)
  unfold mishaps shortfalls refusals complaints gatings discoveries writings
  rw [unapplied, untold gating (by decide) (by decide), untold discovery (by decide) (by decide),
    untold writing (by decide) (by decide)]
  simp [verdict, failureOf]

theorem early_removal (lists : ManagedRegistrations) (deletions : List Deletion) :
    ∀ exchange ∈ ⟨.readMode, .ok .removed⟩ :: ⟨.listManaged, .ok lists⟩ ::
      deletions.flatMap Deletion.transcript, Early exchange := by
  refine List.forall_mem_cons.mpr ⟨.inl rfl, List.forall_mem_cons.mpr ⟨.inl rfl, ?_⟩⟩
  intro exchange member
  exact .inr (Within.flatMap Deletion.within deletions exchange member)

theorem mishaps_removal (lists : ManagedRegistrations) (deletions : List Deletion) :
    mishaps (⟨.readMode, .ok .removed⟩ :: ⟨.listManaged, .ok lists⟩ ::
      deletions.flatMap Deletion.transcript) = deletions.filterMap Deletion.failure := by
  have begun := beginning.found_append_of_elsewhere
    [⟨.readMode, .ok .removed⟩, ⟨.listManaged, .ok lists⟩]
    ((Within.flatMap Deletion.within deletions).ne (by decide))
  have left := leftovers_deletions deletions
  rw [mishaps_of_early (early_removal lists deletions), ← left]
  exact congrArg (· ++ leftovers (deletions.flatMap Deletion.transcript)) begun

theorem ToldAlone.of_early {transcript : Transcript calls} {told failure : Failure}
    (early : ∀ exchange ∈ transcript, Early exchange)
    (unwraps : Relation.ReflTransGen Unwraps told failure) :
    ToldAlone transcript (.error told) failure := by
  refine ⟨fun _ => ⟨told, rfl, unwraps, Failure.readsLike_of_unwraps unwraps⟩, fun kept => ?_⟩
  rcases early _ kept with phase | phase <;> cases phase

theorem Course.toldAlone {prober : Bool} {transcript : Transcript calls}
    {result : Except Failure Unit} (course : Course prober transcript result) {failure : Failure}
    (alone : mishaps transcript = [failure]) : ToldAlone transcript result failure := by
  cases course with
  | unread other =>
      obtain rfl : other = failure := (List.cons_eq_cons.mp alone).1
      exact .of_early (List.forall_mem_singleton.mpr (.inl rfl)) .refl
  | unmanaged | unknown => cases alone
  | unlisted acting other =>
      obtain rfl : other = failure := (List.cons_eq_cons.mp alone).1
      exact .of_early (List.forall_mem_cons.mpr
        ⟨.inl rfl, List.forall_mem_singleton.mpr (.inl rfl)⟩) .refl
  | @removed lists deletions names =>
      rw [mishaps_removal] at alone
      rw [alone]
      exact .of_early (early_removal lists deletions) (.single (.here failure))
  | managed run => exact run.toldAlone alone

/-- For every failure, whatever it is made of: aggregates of a single member do not show in it,
longer ones are lists in brackets, and its retry class is that of its leaves. Hence, whatever the
collaborators reply, a cycle in which one thing went wrong tells that thing as it is, and if it
keeps its report back, in the text that stands for the report. -/
theorem layers_are_transparent :
    (∀ failure : Failure, failure.Transparent) ∧
    ∀ (prober : Bool) (transcript : Transcript calls) (result : Except Failure Unit),
      (sync prober).Yields transcript result → ∀ failure, mishaps transcript = [failure] →
      ToldAlone transcript result failure :=
  ⟨Failure.transparent, fun prober _ _ yields _ =>
    Course.toldAlone ((sync_yields_iff prober _ _).mp yields)⟩

def sampleLoss : Failure :=
  .cluster (.transport "connection refused")

/-- A cycle up to its report, in which one delete fails and the services are not ready. -/
def sampleLossWork : Transcript calls :=
  [⟨.readMode, .ok .managed⟩,
    ⟨.listManaged, .ok ⟨[sampleRegistration "v1"], [sampleRegistration "v1beta1"]⟩⟩,
    ⟨.cached "v1beta1.metrics.example.io", some (sampleRegistration "v1beta1")⟩,
    ⟨.observe .delete, ()⟩,
    ⟨.delete "v1beta1.metrics.example.io", .error sampleLoss⟩,
    ⟨.check [sampleRegistration "v1"], .ok false⟩]

def sampleLossOutcomes : Outcomes :=
  { deletion := some (.aggregate [sampleLoss]), check := none, ready := false, application := none }

/-- Through two layers, the failed delete is told alone. -/
theorem layers_are_transparent_sample :
    let transcript := sampleLossWork ++
      (sampleLossOutcomes.inquiry ++ sampleLossOutcomes.writing "" "" (.ok ()))
    let told : Failure := .aggregate [.aggregate [sampleLoss]]
    let another : Failure := .config "no group"
    (sync false).Yields transcript (.error told) ∧ mishaps transcript = [sampleLoss] ∧
      ToldAlone transcript (.error told) sampleLoss ∧
      ReadsLike (.aggregate [told, another]) (.aggregate [sampleLoss, another]) := by
  intro transcript told another
  have yields : (sync false).Yields transcript (.error told) :=
    .ask (.ask (.ask (.ask (.ask (.ask (.ask (.ask (.ask (.ask (.ask (.ask (.done _))))))))))))
  obtain ⟨transparent, alone⟩ := layers_are_transparent
  exact ⟨yields, rfl,
    alone false transcript _ yields sampleLoss rfl,
    (transparent _).unwrapped _
      (.head (.inside [] _ (.here _)) (.single (.inside [] _ (.here _))))⟩

/-- During a shutdown the same failed delete, again alone, is told in another text, and is not worth
a quick retry. -/
theorem lone_failure_told_otherwise :
    let transcript : Transcript calls := sampleLossWork ++ [⟨.isShuttingDown, true⟩]
    let told := sampleLossOutcomes.shutdownFailure
    (sync false).Yields transcript (.error told) ∧ .managed ∈ instructions transcript ∧
      listings transcript ≠ [] ∧ mishaps transcript = [sampleLoss] ∧
      told.message ≠ sampleLoss.message ∧ told.isRetriable ≠ sampleLoss.isRetriable :=
  ⟨.ask (.ask (.ask (.ask (.ask (.ask (.ask (.done _))))))), .head _, List.cons_ne_nil _ _, rfl,
    by decide, by decide⟩

end Cycle

end Registrar
