import Mathlib.Data.List.Basic
import Registrar.Cluster.Cycle
import Registrar.Proofs.Cluster.StatusWrites
/-!
# The status store

Two calls of a cycle are about the operator resource: its instruction is read, and its conditions are
written. Each of them looks at the resource anew, and the second one sends a patch at most. The other
calls have nothing to do with the resource, so here they are open to anybody's answers.
-/

set_option autoImplicit false

namespace Registrar.Cluster

open Api
open Condition (mergeAll)

/-! ## Calls that are carried out by requests -/

/-- What a cycle asks of the status store's surroundings, and of the other collaborators. -/
inductive StatusCall where
  | call (question : Cycle.Call)
  | ask (question : Question)

abbrev StatusCall.Reply : StatusCall → Type
  | call question => question.Reply
  | ask question => question.Reply

abbrev statusCalls : Signature where
  Question := StatusCall
  Reply := StatusCall.Reply

def inquire (question : Question) : Interaction statusCalls question.Reply :=
  .ask (.ask question) .done

/-- The calls that are about the resource are carried out; every other call is made as it is. -/
def keepStatus (name : String) : (question : Cycle.Call) → Interaction statusCalls question.Reply
  | .readMode => (readMode name).translate inquire
  | .writeConditions conditions => (writeConditions name conditions).translate inquire
  | question => .ask (.call question) .done

/-- One cycle that is instructed by the resource of this name, and reports on it. -/
def instructedSync (name : String) (prober : Bool) :
    Interaction statusCalls (Except Failure Unit) :=
  (Cycle.sync prober).translate (keepStatus name)

def carryOutRest (identity : Identity) : (question : StatusCall) → Talk question.Reply
  | .call question => carryOut identity question
  | .ask question => ask question

theorem translate_inquire (identity : Identity) {α : Type} (program : Talk α) :
    (program.translate inquire).translate (carryOutRest identity) = program := by
  rw [Interaction.translate_translate]
  unfold Interaction.translate
  induction program with
  | done value => rfl
  | ask question resume ih => exact congrArg (Interaction.ask question) (funext ih)

/-- A cycle in a cluster is such a cycle, with its other calls carried out there. -/
theorem cycle_eq_instructedSync (identity : Identity) :
    cycle identity =
      (instructedSync identity.operatorName true).translate (carryOutRest identity) := by
  unfold cycle instructedSync
  rw [Interaction.translate_translate]
  refine congrArg (Cycle.sync true).translate (funext fun question => ?_)
  cases question with
  | readMode => exact (translate_inquire identity _).symm
  | writeConditions conditions => exact (translate_inquire identity _).symm
  | _ => exact (Interaction.bind_done (carryOut identity _)).symm

def asked : Exchange questions → Exchange statusCalls
  | ⟨question, reply⟩ => ⟨.ask question, reply⟩

def called : Exchange Cycle.calls → Exchange statusCalls
  | ⟨question, reply⟩ => ⟨.call question, reply⟩

theorem carriesOut_inquire {outer : Transcript questions} {transcript : Transcript statusCalls}
    (carried : Interaction.CarriesOut inquire outer transcript) :
    transcript = outer.map asked :=
  carried.eq_map asked fun _ _ inner => (Interaction.yields_request_iff _ inner _).mp

theorem exists_of_yields_inquire {α : Type} {program : Talk α}
    {transcript : Transcript statusCalls} {result : α}
    (yields : (program.translate inquire).Yields transcript result) :
    ∃ inner, program.Yields inner result ∧ transcript = inner.map asked := by
  obtain ⟨inner, run, carried⟩ := (Interaction.yields_translate_iff _ _ _).mp yields
  exact ⟨inner, run, carriesOut_inquire carried⟩

/-! ## Patches -/

def Question.IsPatch : Question → Prop
  | .exchange request => request.method = .patch
  | _ => False

def StatusCall.IsPatch : StatusCall → Prop
  | .call _ => False
  | .ask question => question.IsPatch

def Unpatched (transcript : Transcript statusCalls) : Prop :=
  ∀ exchange ∈ transcript, ¬ exchange.question.IsPatch

theorem unpatched_append {first last : Transcript statusCalls} :
    Unpatched (first ++ last) ↔ Unpatched first ∧ Unpatched last :=
  List.forall_mem_append

theorem unpatched_map_asked {transcript : Transcript questions}
    (unpatched : ∀ exchange ∈ transcript, ¬ exchange.question.IsPatch) :
    Unpatched (transcript.map asked) :=
  List.forall_mem_map.mpr unpatched

theorem unpatched_map_called (transcript : Transcript Cycle.calls) :
    Unpatched (transcript.map called) :=
  List.forall_mem_map.mpr fun _ _ => id

/-- What is split at its only patch is split at its end. -/
theorem eq_of_split_at_patch {quiet before after : Transcript statusCalls}
    {last exchange : Exchange statusCalls} (unpatched : Unpatched quiet)
    (patch : exchange.question.IsPatch) (same : before ++ exchange :: after = quiet ++ [last]) :
    before = quiet ∧ exchange = last ∧ after = [] := by
  have absent : exchange ∉ quiet := fun member => unpatched exchange member patch
  obtain ⟨rfl, rfl, rfl⟩ := (List.append_cons_inj_of_notMem absent List.not_mem_nil).mp same.symm
  exact ⟨rfl, rfl, rfl⟩

theorem not_isPatch_of_read {name : String} {read : Request}
    (addressed : Request.read Collection.operators name = .ok read) :
    ¬ (Question.exchange read).IsPatch := by
  obtain ⟨-, target, -, rfl⟩ := request_of_read addressed
  simp [Question.IsPatch]

/-- The instruction is read with one request, which is no patch. -/
theorem readMode_yields {name : String} {transcript : Transcript questions}
    {result : Except Failure ManagementState} (yields : (readMode name).Yields transcript result) :
    (∀ exchange ∈ transcript, ¬ exchange.question.IsPatch) ∧
      ∀ mode, result = .ok mode → ∃ read reply operator,
        transcript = [⟨.exchange read, reply⟩] ∧
        Request.read Collection.operators name = .ok read ∧
        outcome Operator.ofJson reply = .ok operator ∧ operator.spec.managementState = mode := by
  obtain ⟨_, found, _, rfl, looked, ended⟩ := (Interaction.yields_bind_iff _ _ _ _).mp yields
  obtain ⟨rfl, rfl⟩ := (Interaction.yields_done_iff _ _ _).mp ended
  obtain ⟨found, performed, rfl⟩ := performed_of_readOperator looked
  have performed := (perform_yields_iff _ _ _ _).mp performed
  rw [List.append_nil]
  cases addressed : Request.read Collection.operators name with
  | error failure =>
      rw [addressed] at performed
      obtain ⟨rfl, rfl⟩ := performed
      exact ⟨by simp, fun mode told => by cases told⟩
  | ok read =>
      rw [addressed] at performed
      obtain ⟨reply, rfl, rfl⟩ := performed
      refine ⟨by simpa using not_isPatch_of_read addressed, fun mode told => ?_⟩
      · cases decoded : outcome Operator.ofJson reply with
        | error failure =>
            rw [decoded] at told
            cases told
        | ok operator =>
            rw [decoded] at told
            exact ⟨read, reply, operator, rfl, rfl, decoded, Except.ok.inj told⟩

/-- A report that is sent: what the resource said when it was read, what the clock showed, and what
came back. -/
structure StatusUpdate (name : String) (conditions : List Condition) where
  read : Request
  addressed : Request.read Collection.operators name = .ok read
  reply : Except String Response
  operator : Operator
  decoded : outcome Operator.ofJson reply = .ok operator
  times : List String
  timed : times.length = conditions.length
  target : Target
  written : statusTarget Collection.operators name = some target
  received : Except String Response

namespace StatusUpdate

variable {name : String} {conditions : List Condition}

/-- The conditions that are sent are merged into those that were read. -/
def merged (update : StatusUpdate name conditions) : List Condition :=
  mergeAll (reported update.operator) (conditions.zip update.times)

def patch (update : StatusUpdate name conditions) : Request :=
  ⟨.patch, update.target, some "application/merge-patch+json",
    some (.object [("status", statusPatch update.merged update.operator.metadata.generation)])⟩

def timing (update : StatusUpdate name conditions) : Transcript questions :=
  update.times.map fun now => ⟨.now, now⟩

/-- What precedes the patch. -/
def preparation (update : StatusUpdate name conditions) : Transcript questions :=
  ⟨.exchange update.read, update.reply⟩ :: update.timing

def transcript (update : StatusUpdate name conditions) : Transcript questions :=
  update.preparation ++ [⟨.exchange update.patch, update.received⟩]

theorem now_of_mem_timing (update : StatusUpdate name conditions) :
    ∀ exchange ∈ update.timing, exchange.question = .now := by
  intro exchange member
  obtain ⟨now, -, rfl⟩ := List.mem_map.mp member
  rfl

theorem unpatched_preparation (update : StatusUpdate name conditions) :
    ∀ exchange ∈ update.preparation, ¬ exchange.question.IsPatch := by
  refine List.forall_mem_cons.mpr ⟨?_, fun exchange member => ?_⟩
  · exact not_isPatch_of_read update.addressed
  · rw [update.now_of_mem_timing exchange member]
    exact id

end StatusUpdate

/-- Conditions are written with one patch at the end, or not at all. -/
theorem unpatched_or_updated {name : String} {conditions : List Condition}
    {transcript : Transcript questions} {result : Except Failure Unit}
    (yields : (writeConditions name conditions).Yields transcript result) :
    (∀ exchange ∈ transcript, ¬ exchange.question.IsPatch) ∨
      ∃ update : StatusUpdate name conditions, transcript = update.transcript := by
  obtain ⟨_, looked, rest, rfl, first, later⟩ := (Interaction.yields_bind_iff _ _ _ _).mp yields
  obtain ⟨found, performed, rfl⟩ := performed_of_readOperator first
  have performed := (perform_yields_iff _ _ _ _).mp performed
  cases addressed : Request.read Collection.operators name with
  | error failure =>
      rw [addressed] at performed
      obtain ⟨rfl, rfl⟩ := performed
      obtain ⟨rfl, -⟩ := (Interaction.yields_done_iff _ _ _).mp later
      exact .inl (by simp)
  | ok read =>
      rw [addressed] at performed
      obtain ⟨reply, rfl, rfl⟩ := performed
      have unpatched := not_isPatch_of_read addressed
      cases decoded : outcome Operator.ofJson reply with
      | error failure =>
          rw [decoded] at later
          obtain ⟨rfl, -⟩ := (Interaction.yields_done_iff _ _ _).mp later
          exact .inl (by simpa using unpatched)
      | ok operator =>
          rw [decoded] at later
          obtain ⟨_, merged, _, rfl, merging, writing⟩ :=
            (Interaction.yields_bind_iff _ _ _ _).mp later
          obtain ⟨times, timed, rfl, rfl⟩ := times_of_mergeConditions merging
          dsimp only at writing
          split at writing
          · obtain ⟨rfl, -⟩ := (Interaction.yields_done_iff _ _ _).mp writing
            refine .inl ?_
            simpa [Question.IsPatch] using unpatched
          · obtain ⟨_, written, _, rfl, performed, ended⟩ :=
              (Interaction.yields_bind_iff _ _ _ _).mp writing
            obtain ⟨rfl, -⟩ := (Interaction.yields_done_iff _ _ _).mp ended
            obtain ⟨target, parsed, built⟩ := mergeStatus_of_read addressed
              (statusPatch (mergeAll (reported operator) (conditions.zip times))
                operator.metadata.generation)
            have performed := (perform_yields_iff _ _ _ _).mp performed
            rw [built] at performed
            obtain ⟨received, rfl, -⟩ := performed
            rw [List.append_nil]
            exact .inr ⟨⟨read, addressed, reply, operator, decoded, times, timed, target, parsed,
              received⟩, rfl⟩

end Registrar.Cluster
