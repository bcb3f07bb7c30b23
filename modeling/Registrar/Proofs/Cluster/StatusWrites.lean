import Registrar.Cluster.Objects
import Registrar.Proofs.Cluster.Exchanges
import Registrar.Proofs.Conditions
/-!
# Writing conditions on the operator resource

The operator resource is read, the conditions are merged into those that it has, and what comes out is
written back with one request, together with the generation that was read. If there is nothing new
to say, no second request is sent.
-/

set_option autoImplicit false

namespace Registrar.Cluster

open Api
open Condition (mergeAll MergedInto Says)

/-! ## Reading the resource -/

/-- The failure of a cycle that cannot read the operator resource. -/
def unreadOperator (name : String) (failure : ClusterFailure) : Failure :=
  if failure.saysAbsent then .notFound "APIServiceOperator" name else .cluster failure

/-- Reading the resource is one request, if it can be sent at all. -/
theorem performed_of_readOperator {name : String} {transcript : Transcript questions}
    {result : Except Failure Operator} (yields : (readOperator name).Yields transcript result) :
    ∃ found, (perform (Request.read Collection.operators name) Operator.ofJson).Yields
      transcript found ∧ result = found.mapError (unreadOperator name) := by
  simp only [readOperator, readOptional, Interaction.yields_bind_iff] at yields
  obtain ⟨_, _, _, rfl, ⟨_, found, _, rfl, performed, chosen⟩, ended⟩ := yields
  refine ⟨found, ?_⟩
  cases found with
  | ok operator =>
      obtain ⟨rfl, rfl⟩ := (Interaction.yields_done_iff _ _ _).mp chosen
      obtain ⟨rfl, rfl⟩ := (Interaction.yields_done_iff _ _ _).mp ended
      rw [List.append_nil, List.append_nil]
      exact ⟨performed, rfl⟩
  | error failure =>
      obtain ⟨rfl, rfl⟩ := (Interaction.yields_done_iff _ _ _).mp chosen
      cases absent : failure.saysAbsent with
      | true =>
          simp only [absent, if_true] at ended
          obtain ⟨rfl, rfl⟩ := (Interaction.yields_done_iff _ _ _).mp ended
          rw [List.append_nil, List.append_nil]
          have told : unreadOperator name failure = .notFound Operator.kind name := by
            rw [unreadOperator, absent]
            rfl
          exact ⟨performed, congrArg Except.error told.symm⟩
      | false =>
          simp only [absent, Bool.false_eq_true, if_false] at ended
          obtain ⟨rfl, rfl⟩ := (Interaction.yields_done_iff _ _ _).mp ended
          rw [List.append_nil, List.append_nil]
          have told : unreadOperator name failure = .cluster failure := by
            rw [unreadOperator, absent]
            rfl
          exact ⟨performed, congrArg Except.error told.symm⟩

/-! ## Merging -/

/-- Every condition that is written has a reading of the clock of its own. -/
theorem times_of_mergeConditions {existing conditions : List Condition}
    {transcript : Transcript questions} {merged : List Condition}
    (yields : (mergeConditions existing conditions).Yields transcript merged) :
    ∃ times : List String, times.length = conditions.length ∧
      transcript = times.map (fun now => ⟨.now, now⟩) ∧
      merged = mergeAll existing (conditions.zip times) := by
  induction conditions generalizing existing transcript with
  | nil =>
      obtain ⟨rfl, rfl⟩ := (Interaction.yields_done_iff _ _ _).mp yields
      exact ⟨[], rfl, rfl, rfl⟩
  | cons condition rest ih =>
      obtain ⟨_, now, _, rfl, asked, later⟩ := (Interaction.yields_bind_iff _ _ _ _).mp yields
      obtain rfl := (yields_ask_iff .now _ now).mp asked
      obtain ⟨times, length, rfl, rfl⟩ := ih later
      exact ⟨now :: times, congrArg (· + 1) length, rfl, rfl⟩

/-! ## The request that writes -/

/-- A resource that can be read has a name, and its target is where its collection has it. -/
theorem request_of_read {collection name : String} {read : Request}
    (addressed : Request.read collection name = .ok read) :
    name ≠ "" ∧ ∃ target, Target.parse? (collection ++ "/" ++ name) = some target ∧
      read = ⟨.get, target, none, none⟩ := by
  unfold Request.read Request.buildFor at addressed
  split at addressed
  · cases addressed
  · next named =>
      refine ⟨named, ?_⟩
      have bare : collection ++ "/" ++ name ++ "" ++ "" = collection ++ "/" ++ name := by
        rw [String.append_empty, String.append_empty]
      unfold Request.build at addressed
      dsimp only [List.isEmpty_nil, if_true] at addressed
      rw [if_pos rfl, bare] at addressed
      cases parsed : Target.parse? (collection ++ "/" ++ name) with
      | some target =>
          rw [parsed] at addressed
          cases addressed
          exact ⟨target, rfl, rfl⟩
      | none =>
          rw [parsed] at addressed
          cases addressed

/-- The target of the status of a resource. -/
def statusTarget (collection name : String) : Option Target :=
  Target.parse? (collection ++ "/" ++ name ++ "/status" ++ ("?" ++ "&".intercalate [ownership]))

theorem mergeStatus_of_read {collection name : String} {read : Request}
    (addressed : Request.read collection name = .ok read) (value : Json) :
    ∃ target, statusTarget collection name = some target ∧
      Request.mergeStatus collection name value = .ok ⟨.patch, target,
        some "application/merge-patch+json", some (.object [("status", value)])⟩ := by
  obtain ⟨named, readTarget, readable, -⟩ := request_of_read addressed
  have writable : (Target.parse? (collection ++ "/" ++ name ++
      ("/status" ++ ("?" ++ "&".intercalate [ownership])))).isSome = true :=
    Target.isSome_parse?_append (by rw [readable]; rfl) (by decide) (by decide) (by decide)
  obtain ⟨target, parsed⟩ := Option.isSome_iff_exists.mp writable
  rw [← String.append_assoc] at parsed
  refine ⟨target, parsed, ?_⟩
  unfold Request.mergeStatus Request.buildFor Request.build
  rw [if_neg named]
  dsimp only
  rw [if_neg (by decide), parsed]
  rfl

/-- Where the resource can be read, its status can be written. -/
theorem exists_mergeStatus {collection name : String} {read : Request}
    (addressed : Request.read collection name = .ok read) (value : Json) :
    ∃ patch, Request.mergeStatus collection name value = .ok patch ∧ patch.method = .patch ∧
      patch.contentType = some "application/merge-patch+json" ∧
      patch.body = some (.object [("status", value)]) := by
  obtain ⟨target, -, built⟩ := mergeStatus_of_read addressed value
  exact ⟨_, built, rfl, rfl, rfl⟩

/-! ## Writing -/

/-- The resource says all that is to be written, and says so of its present generation. -/
structure UpToDate (operator : Operator) (conditions : List Condition) : Prop where
  said : ∀ condition ∈ conditions, Says (reported operator) condition
  observed : operator.status.bind OperatorStatus.observedGeneration = operator.metadata.generation

/-- How conditions are written on a resource that was read with a first exchange: not at all if it is
up to date, and else with one request for the merged conditions and the generation that was read. -/
structure Updated (name : String) (conditions : List Condition) (operator : Operator)
    (first : Request × Except String Response) (transcript : Transcript questions)
    (result : Except Failure Unit) (merged : List Condition) : Prop where
  timed : (readings transcript).length = conditions.length
  merges : MergedInto (reported operator) (conditions.zip (readings transcript)) merged
  upToDate : UpToDate operator conditions → sent transcript = [first] ∧ result = .ok ()
  outdated : ¬ UpToDate operator conditions → ∃ patch reply,
    sent transcript = [first, (patch, reply)] ∧
    Request.mergeStatus Collection.operators name
      (statusPatch merged operator.metadata.generation) = .ok patch ∧
    patch.method = .patch ∧ patch.contentType = some "application/merge-patch+json" ∧
    patch.body = some (.object [("status", .object
      [("conditions", .array (merged.map Condition.toJson)),
        ("observedGeneration", operator.metadata.generation.elim .null .ofInt64)])]) ∧
    result = raise ((outcome Operator.ofJson reply).map fun _ => ())

theorem sent_times (times : List String) :
    sent (times.map fun now => (⟨.now, now⟩ : Exchange questions)) = [] := by
  induction times with
  | nil => rfl
  | cons now rest ih => exact ih

theorem readings_times (times : List String) :
    readings (times.map fun now => (⟨.now, now⟩ : Exchange questions)) = times := by
  induction times with
  | nil => rfl
  | cons now rest ih => exact congrArg (now :: ·) ih

theorem nodup_writtenTypes_zip {conditions : List Condition} {times : List String}
    (distinct : (conditions.map Condition.type).Nodup) (timed : times.length = conditions.length) :
    (Condition.writtenTypes (conditions.zip times)).Nodup := by
  rw [← List.map_fst_zip (Nat.le_of_eq timed.symm), List.map_map] at distinct
  exact distinct

/-- What is merged makes no difference just if the resource is up to date. -/
theorem upToDate_iff {operator : Operator} {conditions : List Condition} {times : List String}
    (distinct : (conditions.map Condition.type).Nodup)
    (timed : times.length = conditions.length) :
    mergeAll (reported operator) (conditions.zip times) = reported operator ∧
        operator.status.bind OperatorStatus.observedGeneration = operator.metadata.generation ↔
      UpToDate operator conditions := by
  rw [Condition.mergeAll_eq_self_iff _ (nodup_writtenTypes_zip distinct timed),
    ← List.forall_mem_map, List.map_fst_zip (Nat.le_of_eq timed.symm)]
  exact ⟨fun both => ⟨both.1, both.2⟩, fun current => ⟨current.said, current.observed⟩⟩

theorem updated {name : String} {conditions : List Condition}
    (distinct : (conditions.map Condition.type).Nodup) {request : Request}
    (addressed : Request.read Collection.operators name = .ok request)
    {reply : Except String Response} {operator : Operator} {merging written : Transcript questions}
    {merged : List Condition} {result : Except Failure Unit}
    (mergingYields : (mergeConditions (reported operator) conditions).Yields merging merged)
    (writingYields : (if merged = reported operator ∧
        operator.status.bind OperatorStatus.observedGeneration = operator.metadata.generation
      then pure (.ok ())
      else do
        let written ← perform (Request.mergeStatus Collection.operators name
          (statusPatch merged operator.metadata.generation)) Operator.ofJson
        pure (raise (written.map fun _ => ())) : Talk (Except Failure Unit)).Yields written result) :
    Updated name conditions operator (request, reply)
      ([⟨.exchange request, reply⟩] ++ (merging ++ written)) result merged := by
  obtain ⟨times, timed, rfl, rfl⟩ := times_of_mergeConditions mergingYields
  have current := @upToDate_iff operator conditions times distinct timed
  have merges := Condition.mergedInto (reported operator) (nodup_writtenTypes_zip distinct timed)
  have clock : ∀ rest : Transcript questions, readings ([⟨.exchange request, reply⟩] ++
      (times.map (fun now => ⟨.now, now⟩) ++ rest)) = times ++ readings rest := by
    intro rest
    rw [readings_append, readings_append, readings_times]
    rfl
  have requests : ∀ rest : Transcript questions, sent ([⟨.exchange request, reply⟩] ++
      (times.map (fun now => ⟨.now, now⟩) ++ rest)) = (request, reply) :: sent rest := by
    intro rest
    rw [sent_append, sent_append, sent_times]
    rfl
  split at writingYields
  · next unchanged =>
      obtain ⟨rfl, rfl⟩ := (Interaction.yields_done_iff _ _ _).mp writingYields
      have told := (clock []).trans (List.append_nil times)
      exact ⟨by rw [told, timed], by rw [told]; exact merges, fun _ => ⟨requests [], rfl⟩,
        fun outdated => absurd (current.mp unchanged) outdated⟩
  · next changed =>
      obtain ⟨patch, built, method, contentType, body⟩ := exists_mergeStatus addressed
        (statusPatch (mergeAll (reported operator) (conditions.zip times))
          operator.metadata.generation)
      obtain ⟨_, _, _, rfl, performed, ended⟩ :=
        (Interaction.yields_bind_iff _ _ _ _).mp writingYields
      obtain ⟨rfl, rfl⟩ := (Interaction.yields_done_iff _ _ _).mp ended
      have performed := (perform_yields_iff _ _ _ _).mp performed
      rw [built] at performed
      obtain ⟨received, rfl, rfl⟩ := performed
      have told := (clock [⟨.exchange patch, received⟩]).trans (List.append_nil times)
      rw [List.append_nil]
      exact ⟨by rw [told, timed], by rw [told]; exact merges,
        fun upToDate => absurd (current.mpr upToDate) changed,
        fun _ => ⟨patch, received, requests [⟨.exchange patch, received⟩], built, method,
          contentType, body, rfl⟩⟩

/-- How conditions are written: the resource is read with one request if that can be sent at all, and
what comes back decides how it goes on. -/
structure WriteOutcome (name : String) (conditions : List Condition)
    (transcript : Transcript questions) (result : Except Failure Unit) : Prop where
  unaddressed : ∀ failure, Request.read Collection.operators name = .error failure →
    transcript = [] ∧ result = .error (unreadOperator name failure)
  read : ∀ request, Request.read Collection.operators name = .ok request →
    ∃ reply rest, transcript = ⟨.exchange request, reply⟩ :: rest ∧
      (∀ failure, outcome Operator.ofJson reply = .error failure →
        rest = [] ∧ result = .error (unreadOperator name failure)) ∧
      (∀ operator, outcome Operator.ofJson reply = .ok operator → ∃ merged,
        Updated name conditions operator (request, reply) transcript result merged)

/-- Whatever the resource says and whatever the clock shows: conditions of distinct types are merged
with those of the resource, and only what makes a difference is written, with one request. A resource
that is not there, or that cannot be read, is told and not written. -/
theorem write_merges {name : String} {conditions : List Condition}
    (distinct : (conditions.map Condition.type).Nodup) {transcript : Transcript questions}
    {result : Except Failure Unit}
    (yields : (writeConditions name conditions).Yields transcript result) :
    WriteOutcome name conditions transcript result := by
  obtain ⟨_, read, rest, rfl, first, later⟩ := (Interaction.yields_bind_iff _ _ _ _).mp yields
  obtain ⟨found, performed, rfl⟩ := performed_of_readOperator first
  have performed := (perform_yields_iff _ _ _ _).mp performed
  constructor
  · intro failure unaddressed
    rw [unaddressed] at performed
    obtain ⟨rfl, rfl⟩ := performed
    exact (Interaction.yields_done_iff _ _ _).mp later
  · intro request addressed
    rw [addressed] at performed
    obtain ⟨reply, rfl, rfl⟩ := performed
    refine ⟨reply, rest, rfl, ?_, ?_⟩
    · intro failure unread
      rw [unread] at later
      exact (Interaction.yields_done_iff _ _ _).mp later
    · intro operator decoded
      rw [decoded] at later
      obtain ⟨_, merged, written, rfl, merging, writing⟩ :=
        (Interaction.yields_bind_iff _ _ _ _).mp later
      exact ⟨merged, updated distinct addressed merging writing⟩

/-- A resource that reports a trouble which is over by now. -/
def sampleOperator : Operator where
  metadata := { name := some "cluster", generation := some 2 }
  spec := ⟨.managed⟩
  status := some
    ⟨[.notDegraded "09:00", (Condition.available "09:00").set .false .error "no endpoints",
      ⟨"Upgradeable", .true, "08:00", "", ""⟩], some 1⟩

/-- An API server that holds this resource, and a clock that stands still. -/
def sampleServer : (question : Question) → StateM Unit question.Reply
  | .exchange _ => pure (.ok ⟨200, .json sampleOperator.toJson⟩)
  | .cached _ => pure none
  | .manifest => pure none
  | .isShuttingDown => pure false
  | .now => pure "10:05"
  | .observe _ => pure ()

def sampleConditions : List Condition :=
  [.notDegraded "10:04", .available "10:04"]

def sampleWrite : Transcript questions :=
  (writeConditions "cluster" sampleConditions).transcriptIn sampleServer ()

/-- The condition that has changed is written over and takes the time from the clock; the one that
said so already keeps its own. -/
theorem write_merges_sample :
    ∃ (first : Request × Except String Response) (patch : Request)
      (reply : Except String Response) (merged : List Condition),
      sent sampleWrite = [first, (patch, reply)] ∧
      patch.method = .patch ∧
      patch.body = some (.object [("status", .object
        [("conditions", .array (merged.map Condition.toJson)),
          ("observedGeneration", .integer 2)])]) ∧
      merged[0]? = some (.notDegraded "09:00") ∧ merged[1]? = some (.available "10:05") := by
  have yields : (writeConditions "cluster" sampleConditions).Yields sampleWrite
      (((writeConditions "cluster" sampleConditions).interpret sampleServer).run ()).1 :=
    Interaction.yields_transcriptIn (writeConditions "cluster" sampleConditions) ()
  obtain ⟨reply, rest, same, -, written⟩ := (write_merges (by decide) yields).read
    ⟨.get, ⟨Collection.operators ++ "/cluster", []⟩, none, none⟩ rfl
  have replied : some reply = some (.ok ⟨200, .json sampleOperator.toJson⟩) :=
    (congrArg (fun transcript => (sent transcript).head?.map Prod.snd) same).symm
  cases replied
  obtain ⟨merged, updated⟩ := written sampleOperator rfl
  obtain ⟨patch, reply, requests, -, method, -, body, -⟩ :=
    updated.outdated fun current => absurd current.observed (by decide)
  have merges := updated.merges
  have stamped : sampleConditions.zip (readings sampleWrite) =
      [(.notDegraded "10:04", "10:05"), (.available "10:04", "10:05")] := by decide
  rw [stamped] at merges
  exact ⟨_, patch, reply, merged, requests, method, body,
    merges.first [] _ _ rfl (by decide) _ (.head _) rfl,
    merges.first [_] _ _ rfl (by decide) _ (.tail _ (.head _)) rfl⟩

end Registrar.Cluster
