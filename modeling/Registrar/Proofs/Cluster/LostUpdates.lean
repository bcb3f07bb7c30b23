import Registrar.Proofs.Cluster.SharedResource
/-!
# Updates that get lost

A report is merged into the conditions that the resource had when it was read, and is sent with all of
them. So the conditions of other clients come out as they were at the read: what was written before
it is kept, what is written after the patch is kept, and what came in between is written over.
-/

set_option autoImplicit false

namespace Registrar.Cluster

open Api
open Condition (ofOtherTypes)

def Readable (resource : Members) : Prop :=
  ∃ operator, Operator.ofJson (.object resource) = .ok operator

/-- The conditions of a resource; there are none in one that cannot be read. -/
def conditionsOf (resource : Members) : List Condition :=
  match Operator.ofJson (.object resource) with
  | .ok operator => reported operator
  | .error _ => []

/-- The conditions of types that are not written. -/
def others (types : List String) (resource : Members) : List Condition :=
  ofOtherTypes types (conditionsOf resource)

/-- A client has added, changed or removed conditions, but none of these types. -/
structure Restates (types : List String) (before after : Members) : Prop where
  readable : Readable after
  apart : (conditionsOf after).filter (fun condition => condition.type ∈ types) =
    (conditionsOf before).filter fun condition => condition.type ∈ types

/-- What becomes of the conditions of others while conditions are written. Without a patch, they are
as others have last written them. With a patch, they are as others have last written them before the
resource was read or after it was patched. -/
structure OthersKept (server : Server) (types : List String) (first : Members)
    (history : List Moment) (last : Members) : Prop where
  unpatched : (∀ patch reply, .patched patch reply ∉ history) →
    others types last = others types (lastWritten first history)
  patched : ∀ {before after : List Moment} {patch : Request} {sentBack : Except String Response},
    history = before ++ .patched patch sentBack :: after →
    ∃ (opening between : List Moment) (read : Exchange statusCalls) (operator : Operator),
      before = opening ++ .exchanged read :: between ∧ Shows server.name operator read ∧
      made opening = [] ∧
      others types last = others types (lastWritten first (opening ++ after))

variable {server : Server} {conditions : List Condition} {types : List String}
  {first last resource : Members} {history : List Moment}

theorem conditionsOf_of_readable {operator : Operator}
    (readable : Operator.ofJson (.object resource) = .ok operator) :
    conditionsOf resource = reported operator := by
  unfold conditionsOf
  rw [readable]

theorem Server.Passes.readable (passes : server.Passes (Restates types) first history last)
    (unpatched : ∀ patch reply, .patched patch reply ∉ history) (readable : Readable first) :
    Readable last :=
  passes.preserves (fun restates _ => restates.readable)
    (fun member => absurd member (unpatched _ _)) readable

namespace StatusUpdate

/-- The patched resource has the conditions that were sent, whatever others had written. -/
theorem conditionsOf_served (update : StatusUpdate server.name conditions)
    (readable : Readable resource) :
    conditionsOf (server.served update.patch resource) = update.merged := by
  obtain ⟨operator, held⟩ := readable
  obtain ⟨metadata, marked, -⟩ := server.marked (Operator.ofJson_mergePatch_status held
    update.merged update.operator.metadata.generation)
  have served : server.served update.patch resource =
      server.mark (Json.mergePatch (some (.object resource)) (.object [("status", statusPatch
        update.merged update.operator.metadata.generation)])).members :=
    congrArg (fun answered => answered.2.resource)
      (Server.serve_patch update.written { resource })
  exact (congrArg conditionsOf served).trans (conditionsOf_of_readable marked)

theorem others_served (update : StatusUpdate server.name conditions) (readable : Readable resource) :
    others (conditions.map Condition.type) (server.served update.patch resource) =
      ofOtherTypes (conditions.map Condition.type) (reported update.operator) := by
  unfold others
  rw [update.conditionsOf_served readable]
  refine Condition.ofOtherTypes_mergeAll (fun write member => ?_) _
  exact List.mem_map_of_mem (List.of_mem_zip member).1

end StatusUpdate

/-- Where a patch is carried out, a report is at its end, and the resource was read for it. -/
theorem exists_update_of_patched {result : Except Failure Unit} {before after : List Moment}
    {patch : Request} {sentBack : Except String Response}
    {change : Members → Members → Prop}
    (yields : (keepStatus server.name (.writeConditions conditions)).Yields
      (made (before ++ .patched patch sentBack :: after)) result)
    (passes : server.Passes change first (before ++ .patched patch sentBack :: after) last) :
    ∃ (update : StatusUpdate server.name conditions) (opening between : List Moment),
      patch = update.patch ∧
      before = opening ++ .exchanged (asked ⟨.exchange update.read, update.reply⟩) :: between ∧
      made opening = [] ∧ made between = update.timing.map asked ∧ made after = [] := by
  obtain ⟨sent, method⟩ := passes.isPatch_of_patched (List.mem_append_right before (.head after))
  obtain ⟨inner, run, same⟩ := exists_of_yields_inquire yields
  rcases unpatched_or_updated run with unpatched | ⟨update, rfl⟩
  · rw [same] at sent
    exact absurd method (unpatched_map_asked unpatched _ sent)
  · rw [made_append, made_cons rfl, StatusUpdate.transcript, List.map_append] at same
    obtain ⟨prepared, patching, ended⟩ := eq_of_split_at_patch
      (unpatched_map_asked update.unpatched_preparation) (by exact method) same
    cases patching
    obtain ⟨opening, moment, between, rfl, silent, looked, timed⟩ := exists_of_made_cons prepared
    obtain rfl := passes.eq_exchanged (by simp) looked (not_isPatch_of_read update.addressed)
    exact ⟨update, opening, between, rfl, rfl, silent, timed, ended⟩

/-- Whenever others write while a report is made: only what they write between its read and its
patch gets lost. -/
theorem others_kept_outside_of_write {result : Except Failure Unit}
    (yields : (keepStatus server.name (.writeConditions conditions)).Yields (made history) result)
    (passes : server.Passes (Restates (conditions.map Condition.type)) first history last)
    (readable : Readable first) :
    OthersKept server (conditions.map Condition.type) first history last := by
  constructor
  · intro unpatched
    rw [passes.eq_lastWritten unpatched]
  · intro before after patch sentBack split
    subst split
    obtain ⟨update, opening, between, rfl, rfl, silent, timed, ended⟩ :=
      exists_update_of_patched yields passes
    refine ⟨opening, between, _, update.operator, rfl, update.shows, silent, ?_⟩
    have preparing : Unpatched (made (opening ++
        .exchanged (asked ⟨.exchange update.read, update.reply⟩) :: between)) := by
      rw [made_append, made_cons rfl, silent, timed]
      exact unpatched_map_asked update.unpatched_preparation
    obtain ⟨met, prepared, patching⟩ := passes.append_inv
    obtain ⟨shown, waited, looking⟩ := prepared.append_inv
    cases looking with
    | exchanged truthful _ =>
        cases patching with
        | patched _ concluded =>
            -- up to the read, and from the patch on, others have the resource to themselves
            have atRead :=
              waited.eq_lastWritten (waited.unpatched_of_made (by simp [silent, Unpatched]))
            have atEnd :=
              concluded.eq_lastWritten (concluded.unpatched_of_made (by simp [ended, Unpatched]))
            have held := truthful _ update.shows
            have merged := update.others_served
              (prepared.readable (prepared.unpatched_of_made preparing) readable)
            rw [← conditionsOf_of_readable held, atRead] at merged
            rw [atEnd, lastWritten_append]
            exact lastWritten_congr (others _) merged

/-! ## A race -/

def restatedOperator : Operator :=
  { sampleOperator with
    status := some ⟨(reported sampleOperator).dropLast ++
      [⟨"Upgradeable", .false, "10:04", "Draining", ""⟩], some 1⟩ }

/-- Another client changes its condition just when the operator is about to send its report. -/
def sampleRace : List Moment :=
  .exchanged ⟨.ask (.exchange sampleRead), shown sampleOperator⟩ ::
    ([⟨.ask .now, "10:05"⟩, ⟨.ask .now, "10:05"⟩].map .exchanged ++
      [.changed restatedOperator.toJson.members, .patched (samplePatch 2) (shown sampleOperator)])

def sampleOutcome : Members :=
  plainServer.served (samplePatch 2) restatedOperator.toJson.members

theorem yields_sampleRace :
    (keepStatus "cluster" (.writeConditions sampleConditions)).Yields (made sampleRace) (.ok ()) := by
  have ran : (keepStatus "cluster" (.writeConditions sampleConditions)).Yields
      (Interaction.transcriptIn scripted _ [shown sampleOperator, shown sampleOperator]) _ :=
    Interaction.yields_transcriptIn _ _
  exact ran

theorem readable_sampleOperator : Readable sampleOperator.toJson.members :=
  ⟨sampleOperator, rfl⟩

theorem passes_sampleRace :
    plainServer.Passes (Restates (sampleConditions.map Condition.type))
      sampleOperator.toJson.members sampleRace sampleOutcome := by
  have restates : Restates (sampleConditions.map Condition.type) sampleOperator.toJson.members
      restatedOperator.toJson.members := ⟨⟨restatedOperator, rfl⟩, by decide +kernel⟩
  refine .exchanged (truthful_shown _ _ _) (Server.Passes.exchanged_append ?_
    (.changed restates (.patched rfl (.nil _))))
  simp [Shows]

/-- The report puts back what it has read of the other client. -/
theorem others_kept_outside_of_write_sample :
    others (sampleConditions.map Condition.type) sampleOutcome =
      others (sampleConditions.map Condition.type) sampleOperator.toJson.members := by
  obtain ⟨opening, between, read, reply, split, -, silent, kept⟩ :=
    (others_kept_outside_of_write yields_sampleRace passes_sampleRace
      readable_sampleOperator).patched
      (show sampleRace = [_, _, _, _] ++ .patched (samplePatch 2) _ :: [] from rfl)
  cases opening with
  | nil => exact kept
  | cons moment opening =>
      obtain ⟨rfl, -⟩ := List.cons_eq_cons.mp split
      cases silent

/-- So the condition that was last written is not the one that the resource has. -/
theorem write_in_between_is_lost :
    (keepStatus plainServer.name (.writeConditions sampleConditions)).Yields
        (made sampleRace) (.ok ()) ∧
      plainServer.Passes (Restates (sampleConditions.map Condition.type))
        sampleOperator.toJson.members sampleRace sampleOutcome ∧
      Readable sampleOperator.toJson.members ∧
      others (sampleConditions.map Condition.type) sampleOutcome =
        [⟨"Upgradeable", .true, "08:00", "", ""⟩] ∧
      others (sampleConditions.map Condition.type)
          (lastWritten sampleOperator.toJson.members sampleRace) =
        [⟨"Upgradeable", .false, "10:04", "Draining", ""⟩] :=
  ⟨yields_sampleRace, passes_sampleRace, readable_sampleOperator, by decide +kernel,
    by decide +kernel⟩

end Registrar.Cluster
