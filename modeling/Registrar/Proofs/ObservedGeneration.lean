import Registrar.Proofs.Cluster.SharedResource
import Registrar.Proofs.SteadyState
import Registrar.Proofs.Suppression
/-!
# The observed generation

A managed cycle reads the operator resource twice: for its instruction at the start, and once more to
write its report at the end. The generation that the report observes is that of the second read. It
is the generation of the instruction just if nobody has edited the resource in between.
-/

set_option autoImplicit false

namespace Registrar

namespace Cycle

/-- Only a managed cycle that writes its report comes back to the resource. -/
theorem Course.atResource {prober : Bool} {transcript : Transcript calls}
    {result : Except Failure Unit} (course : Course prober transcript result) :
    (∀ exchange ∈ transcript, ∀ conditions, exchange.question ≠ .writeConditions conditions) ∨
      ∃ (working : Transcript calls) (conditions : List Condition) (reply : Except Failure Unit),
        transcript =
          ⟨.readMode, .ok .managed⟩ :: (working ++ [⟨.writeConditions conditions, reply⟩]) ∧
        ∀ exchange ∈ working, ¬ Surroundings.AtResource exchange.question := by
  have elsewhere : ∀ {exchange : Exchange calls}, exchange.question.phase ≠ .report →
      ∀ conditions, exchange.question ≠ .writeConditions conditions := by
    intro exchange notReport conditions same
    exact notReport (congrArg Call.phase same)
  rcases course.managed_or_idle with ⟨lists, run, rfl⟩ | idle
  · rcases run.reported.suppressed_or_written with
      ⟨-, same, -⟩ | ⟨degradedAt, availableAt, reply, same⟩
    · refine .inl fun exchange member => ?_
      rw [run.transcript_eq_append, same] at member
      rcases List.mem_append.mp member with member | member
      · exact elsewhere (run.not_report_of_mem_working exchange member)
      · obtain rfl := List.mem_singleton.mp member
        intro conditions same
        cases same
    · have heeded : ⟨.isShuttingDown, true⟩ ∉ run.transcript := by
        rw [run.transcript_eq_append, same]
        intro member
        rcases List.mem_append.mp member with member | member
        · exact run.not_report_of_mem_working _ member rfl
        · simp only [Outcomes.inquiry, Outcomes.writing] at member
          split at member <;> simp at member
      obtain ⟨working, _, _, _, split, harmless, -⟩ := Surroundings.exists_transcript run heeded
      exact .inr ⟨working, _, _, split, harmless⟩
  · refine .inl fun exchange member => elsewhere ?_
    rcases idle exchange member with opening | deletion
    · rw [opening]
      decide
    · rw [deletion]
      decide

end Cycle

namespace Cluster

open Api
open Cycle.Surroundings (AtResource)

/-! ## Requests of the status store -/

theorem keepStatus_eq (name : String) {question : Cycle.Call} (elsewhere : ¬ AtResource question) :
    keepStatus name question = .ask (.call question) .done := by
  cases question with
  | readMode | writeConditions => exact absurd trivial elsewhere
  | _ => rfl

theorem carriesOut_called {name : String} {outer : Transcript Cycle.calls}
    {transcript : Transcript statusCalls}
    (carried : Interaction.CarriesOut (keepStatus name) outer transcript)
    (elsewhere : ∀ exchange ∈ outer, ¬ AtResource exchange.question) :
    transcript = outer.map called := by
  refine carried.eq_map called fun exchange member inner answered => ?_
  rw [keepStatus_eq name (elsewhere exchange member)] at answered
  exact (Interaction.yields_request_iff _ inner _).mp answered

/-- Patches come from nothing but writing conditions. -/
theorem unpatched_of_unwritten {name : String} {outer : Transcript Cycle.calls}
    {transcript : Transcript statusCalls}
    (carried : Interaction.CarriesOut (keepStatus name) outer transcript)
    (unwritten : ∀ exchange ∈ outer, ∀ conditions,
      exchange.question ≠ .writeConditions conditions) : Unpatched transcript := by
  induction carried with
  | nil => exact fun _ member => nomatch member
  | @cons question reply outer inner rest answered _ ih =>
      obtain ⟨here, later⟩ := List.forall_mem_cons.mp unwritten
      refine unpatched_append.mpr ⟨?_, ih later⟩
      by_cases elsewhere : AtResource question
      · cases question with
        | readMode =>
            obtain ⟨read, run, rfl⟩ := exists_of_yields_inquire answered
            exact unpatched_map_asked (readMode_yields run).1
        | writeConditions conditions => exact absurd rfl (here conditions)
        | _ => exact elsewhere.elim
      · rw [keepStatus_eq name elsewhere] at answered
        rw [(Interaction.yields_request_iff _ inner _).mp answered]
        exact List.forall_mem_singleton.mpr id

/-! ## Edits -/

/-- Another client has edited the instruction, and the server has counted that. -/
def Edits (before after : Members) : Prop :=
  ∃ (old new : Operator) (generation later : Int64),
    Operator.ofJson (.object before) = .ok old ∧ Operator.ofJson (.object after) = .ok new ∧
    old.metadata.generation = some generation ∧ new.metadata.generation = some later ∧
    generation < later

variable {server : Server} {first last : Members} {history : List Moment}

/-- Between two looks at the resource the generation either has grown, or there were no edits. -/
theorem Server.Passes.generation_eq_or_lt (passes : server.Passes Edits first history last)
    (unpatched : ∀ patch reply, .patched patch reply ∉ history) {old new : Operator}
    (heldFirst : Operator.ofJson (.object first) = .ok old)
    (heldLast : Operator.ofJson (.object last) = .ok new) :
    (changes history = [] ∧ new = old) ∨ (changes history ≠ [] ∧
      ∃ generation later : Int64, old.metadata.generation = some generation ∧
        new.metadata.generation = some later ∧ generation < later) := by
  induction passes generalizing old with
  | nil resource => exact .inl ⟨rfl, Except.ok.inj (heldLast.symm.trans heldFirst)⟩
  | changed edits passes ih =>
      obtain ⟨_, middle, generation, later, heldBefore, heldAfter, counted, countedAfter, grown⟩ :=
        edits
      obtain rfl := Except.ok.inj (heldBefore.symm.trans heldFirst)
      refine .inr ⟨List.cons_ne_nil _ _, generation, ?_⟩
      rcases ih (fun patch reply member => unpatched patch reply (.tail _ member)) heldAfter
        heldLast with ⟨-, rfl⟩ | ⟨-, _, last, same, counted', more⟩
      · exact ⟨later, counted, countedAfter, grown⟩
      · obtain rfl := Option.some.inj (same.symm.trans countedAfter)
        exact ⟨last, counted, counted', Int64.lt_trans grown more⟩
  | exchanged _ _ ih =>
      exact ih (fun patch reply member => unpatched patch reply (.tail _ member)) heldFirst heldLast
  | patched => exact absurd (.head _) (unpatched _ _)

theorem Server.Passes.generation_eq_iff (passes : server.Passes Edits first history last)
    (unpatched : ∀ patch reply, .patched patch reply ∉ history) {old new : Operator}
    (heldFirst : Operator.ofJson (.object first) = .ok old)
    (heldLast : Operator.ofJson (.object last) = .ok new) :
    new.metadata.generation = old.metadata.generation ↔ changes history = [] := by
  rcases passes.generation_eq_or_lt unpatched heldFirst heldLast with
    ⟨unchanged, rfl⟩ | ⟨changed, generation, later, counted, countedAfter, grown⟩
  · exact iff_of_true rfl unchanged
  · refine iff_of_false (fun same => ?_) changed
    rw [counted, countedAfter] at same
    exact Int64.ne_of_lt grown (Option.some.inj same).symm

/-- Two honest reads tell the same generation just if there were no edits between them. -/
theorem Server.Passes.generation_of_shows {between rest : List Moment}
    {earlier later : Exchange statusCalls} {acted seen : Operator}
    (passes : server.Passes Edits first
      (.exchanged earlier :: (between ++ .exchanged later :: rest)) last)
    (quiet : Unpatched (made between)) (showsActed : Shows server.name acted earlier)
    (showsSeen : Shows server.name seen later) :
    seen.metadata.generation = acted.metadata.generation ↔ changes between = [] := by
  cases passes with
  | exchanged truthful passes =>
      obtain ⟨_, working, rereading⟩ := passes.append_inv
      cases rereading with
      | exchanged truthfulAgain _ =>
          exact working.generation_eq_iff (working.unpatched_of_made quiet)
            (truthful _ showsActed) (truthfulAgain _ showsSeen)

/-! ## What a report observes -/

def observedGeneration? (patch : Request) : Option Json :=
  (patch.body.bind (·.get? "status")).bind (·.get? "observedGeneration")

/-- Before a report is sent, the resource is read twice: first of all, and right before that, with
nothing but readings of the clock in between. What comes between the reads is none of the status
store's requests. -/
def ReadTwice (name : String) (before : List Moment) (acted : Operator) (between : List Moment)
    (seen : Operator) : Prop :=
  ∃ (opening closing : List Moment) (first last : Exchange statusCalls),
    before = opening ++ .exchanged first :: (between ++ .exchanged last :: closing) ∧
    Shows name acted first ∧ Shows name seen last ∧ made opening = [] ∧
    (∀ exchange ∈ made between, ∃ question, exchange.question = .call question) ∧
    ∀ exchange ∈ made closing, exchange.question = .ask .now

/-- How a cycle that sends a patch has gone. -/
theorem exists_update_of_patch {prober : Bool} {before after : List Moment} {moment : Moment}
    {exchange : Exchange statusCalls} {result : Except Failure Unit}
    (yields : (instructedSync server.name prober).Yields
      (made (before ++ moment :: after)) result)
    (sent : moment.exchange? = some exchange) (patch : exchange.question.IsPatch) :
    ∃ (conditions : List Condition) (update : StatusUpdate server.name conditions)
      (acted : Operator) (first : Exchange statusCalls) (working : Transcript Cycle.calls),
      Shows server.name acted first ∧ ¬ first.question.IsPatch ∧
      acted.spec.managementState = .managed ∧
      made before = first :: (working.map called ++ update.preparation.map asked) ∧
      exchange = asked ⟨.exchange update.patch, update.received⟩ := by
  obtain ⟨outer, run, carried⟩ := (Interaction.yields_translate_iff _ _ _).mp yields
  rw [made_append, made_cons sent] at carried
  rcases ((Cycle.sync_yields_iff prober outer result).mp run).atResource with
    unwritten | ⟨working, conditions, reply, rfl, elsewhere⟩
  · exact absurd patch (unpatched_of_unwritten carried unwritten exchange (by simp))
  · -- a read for the instruction, the work, and what writing the report comes to
    generalize same : made before ++ exchange :: made after = transcript at carried
    cases carried with
    | cons answered carried =>
        obtain ⟨_, looked, rfl⟩ := exists_of_yields_inquire answered
        obtain ⟨unpatched, shows⟩ := readMode_yields looked
        obtain ⟨read, replied, acted, rfl, addressed, decoded, managed⟩ := shows _ rfl
        obtain ⟨_, _, rfl, worked, wrote⟩ := carried.append_inv
        obtain rfl := carriesOut_called worked elsewhere
        cases wrote with
        | cons answered ended =>
            cases ended
            obtain ⟨_, wrote, rfl⟩ := exists_of_yields_inquire answered
            have looking := unpatched_map_asked unpatched
            have quiet := unpatched_append.mpr ⟨looking, unpatched_map_called working⟩
            rw [List.append_nil, ← List.append_assoc] at same
            rcases unpatched_or_updated wrote with unwritten | ⟨update, rfl⟩
            · refine absurd patch
                (unpatched_append.mpr ⟨quiet, unpatched_map_asked unwritten⟩ exchange ?_)
              exact same ▸ List.mem_append_right _ (.head _)
            · rw [StatusUpdate.transcript, List.map_append, ← List.append_assoc] at same
              obtain ⟨prepared, sent, -⟩ := eq_of_split_at_patch (unpatched_append.mpr
                ⟨quiet, unpatched_map_asked update.unpatched_preparation⟩) patch same
              refine ⟨conditions, update, acted, asked ⟨.exchange read, replied⟩, working,
                ⟨addressed, decoded⟩, looking _ (.head _), managed, ?_, sent⟩
              rw [prepared, List.append_assoc]
              rfl

/-- A report observes the generation that the resource has when it is read for the report. That is
the generation of the instruction just if no edit has come in between. -/
theorem observedGeneration_is_reread {prober : Bool} {result : Except Failure Unit}
    (yields : (instructedSync server.name prober).Yields (made history) result)
    (passes : server.Passes Edits first history last) {before after : List Moment} {moment : Moment}
    (split : history = before ++ moment :: after) {patch : Request} {reply : Except String Response}
    (sent : moment.exchange? = some ⟨.ask (.exchange patch), reply⟩) (method : patch.method = .patch) :
    ∃ (acted seen : Operator) (between : List Moment),
      ReadTwice server.name before acted between seen ∧
      acted.spec.managementState = .managed ∧
      observedGeneration? patch = some (seen.metadata.generation.elim .null .ofInt64) ∧
      (seen.metadata.generation = acted.metadata.generation ↔ changes between = []) := by
  subst split
  obtain ⟨conditions, update, acted, firstRead, working, shows, looking, managed, prepared, same⟩ :=
    exists_update_of_patch yields sent method
  cases same
  -- the moments of the two reads in the history, and those before, between and after them
  obtain ⟨opening, looked, _, rfl, silent, exchanged, going⟩ := exists_of_made_cons prepared
  obtain ⟨busy, _, rfl, worked, preparing⟩ := exists_of_made_append going
  obtain ⟨idle, relooked, closing, rfl, quiet, reexchanged, timed⟩ := exists_of_made_cons preparing
  obtain rfl := passes.eq_exchanged (by simp) exchanged looking
  obtain rfl := passes.eq_exchanged (by simp) reexchanged
    (update.unpatched_preparation _ (.head _))
  have between : made (busy ++ idle) = working.map called := by
    rw [made_append, worked, quiet, List.append_nil]
  refine ⟨acted, update.operator, busy ++ idle, ⟨opening, closing, _, _, ?_, shows, update.shows,
    silent, ?_, ?_⟩, managed, rfl, ?_⟩
  · rw [List.append_assoc]
  · rw [between]
    exact List.forall_mem_map.mpr fun exchange _ => ⟨exchange.question, rfl⟩
  · rw [timed]
    refine List.forall_mem_map.mpr fun exchange member => ?_
    exact congrArg StatusCall.ask (update.now_of_mem_timing exchange member)
  · obtain ⟨_, reading, _⟩ := passes.append_inv
    obtain ⟨_, _, looking⟩ := reading.append_inv
    rw [← List.append_assoc] at looking
    exact looking.generation_of_shows (between ▸ unpatched_map_called working) shows
      update.shows

/-! ## A change of mode -/

def editedOperator : Operator :=
  { sampleOperator with
    metadata := { sampleOperator.metadata with generation := some 3 }
    spec := ⟨.removed⟩ }

/-- The exchanges of a cycle that has nothing to apply. -/
def sampleWork : Transcript statusCalls :=
  [⟨.call .listManaged, .ok ⟨[], []⟩⟩, ⟨.call (.check []), .ok true⟩, ⟨.call (.probe []), []⟩,
    ⟨.call .now, "10:04"⟩, ⟨.call .now, "10:04"⟩,
    ⟨.call (.observe (.conditionStatus Condition.degradedType false)), ()⟩,
    ⟨.call (.observe (.conditionStatus Condition.availableType true)), ()⟩]

/-- Somebody takes the operator out of service while it is at work. -/
def samplePreparation : List Moment :=
  .exchanged ⟨.ask (.exchange sampleRead), shown sampleOperator⟩ ::
    (sampleWork.map .exchanged ++ .changed editedOperator.toJson.members ::
      .exchanged ⟨.ask (.exchange sampleRead), shown editedOperator⟩ ::
      [⟨.ask .now, "10:05"⟩, ⟨.ask .now, "10:05"⟩].map .exchanged)

def sampleHistory : List Moment :=
  samplePreparation ++ [.patched (samplePatch 3) (shown editedOperator)]

set_option maxRecDepth 4000 in
theorem yields_sampleHistory :
    (instructedSync plainServer.name true).Yields (made sampleHistory) (.ok ()) := by
  have ran : (instructedSync plainServer.name true).Yields
      (Interaction.transcriptIn scripted _
        [shown sampleOperator, shown editedOperator, shown editedOperator]) _ :=
    Interaction.yields_transcriptIn _ _
  exact ran

theorem passes_sampleHistory :
    plainServer.Passes Edits sampleOperator.toJson.members sampleHistory
      (plainServer.served (samplePatch 3) editedOperator.toJson.members) := by
  have edits : Edits sampleOperator.toJson.members editedOperator.toJson.members :=
    ⟨sampleOperator, editedOperator, 2, 3, rfl, rfl, rfl, rfl, by decide⟩
  have patching : plainServer.Passes Edits editedOperator.toJson.members
      ([⟨.ask .now, "10:05"⟩, ⟨.ask .now, "10:05"⟩].map .exchanged ++
        [.patched (samplePatch 3) (shown editedOperator)])
      (plainServer.served (samplePatch 3) editedOperator.toJson.members) :=
    Server.Passes.exchanged_append (by simp [Shows]) (.patched rfl (.nil _))
  unfold sampleHistory samplePreparation
  rw [List.cons_append, List.append_assoc]
  exact .exchanged (truthful_shown _ _ _) (Server.Passes.exchanged_append
    (by simp [Shows, sampleWork]) (.changed edits (.exchanged (truthful_shown _ _ _) patching)))

theorem observedGeneration_is_reread_sample :
    ∃ (acted seen : Operator) (between : List Moment),
      ReadTwice plainServer.name samplePreparation acted between seen ∧
      acted.spec.managementState = .managed ∧
      observedGeneration? (samplePatch 3) =
        some (seen.metadata.generation.elim .null .ofInt64) ∧
      (seen.metadata.generation = acted.metadata.generation ↔ changes between = []) :=
  observedGeneration_is_reread yields_sampleHistory passes_sampleHistory rfl rfl rfl

/-- A cycle that was told to apply reports on the instruction to remove. -/
theorem edit_in_between_is_observed :
    (instructedSync plainServer.name true).Yields (made sampleHistory) (.ok ()) ∧
      plainServer.Passes Edits sampleOperator.toJson.members sampleHistory
        (plainServer.served (samplePatch 3) editedOperator.toJson.members) ∧
      (made sampleHistory).head? =
        some ⟨.ask (.exchange sampleRead), shown sampleOperator⟩ ∧
      Shows plainServer.name sampleOperator
        ⟨.ask (.exchange sampleRead), shown sampleOperator⟩ ∧
      sampleOperator.spec.managementState = .managed ∧
      sampleOperator.metadata.generation = some 2 ∧
      sampleHistory.getLast? = some (.patched (samplePatch 3) (shown editedOperator)) ∧
      observedGeneration? (samplePatch 3) = some (.ofInt64 3) :=
  ⟨yields_sampleHistory, passes_sampleHistory, rfl, ⟨rfl, rfl⟩, rfl, rfl, rfl, rfl⟩

end Cluster

end Registrar
