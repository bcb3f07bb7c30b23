import Registrar.Proofs.Suppression
/-!
# Metrics and calls

The metrics say what the controller has done: how many deletes it asked for, how many applies made a
difference and how many did not, and what each condition was last said to be. They are right after
any sequence of operations, whatever the collaborators reply, because every run is put together from
a few kinds of pieces and each piece tells the metrics just what it does.
-/

set_option autoImplicit false

namespace Registrar.Cycle

/-! ## Operations -/

/-- What the controller can be asked to do. -/
inductive Operation where
  | sync (prober : Bool)
  | syncDisabled (registrations : List Registration)
  | syncEnabled (prober : Bool) (registrations : List Registration)
  | updateStatus (outcomes : Outcomes)

def Operation.program : Operation → Program (Except Failure Unit)
  | sync prober => Cycle.sync prober
  | syncDisabled registrations => Cycle.syncDisabled registrations
  | syncEnabled prober registrations => Cycle.syncEnabled prober registrations
  | updateStatus outcomes => Cycle.updateStatus outcomes

def carryOutAll : List Operation → Program (List (Except Failure Unit))
  | [] => return []
  | operation :: rest => do
      let result ← operation.program
      let results ← carryOutAll rest
      return result :: results

/-! ## Updates of the status -/

/-- What happens to outcomes that are to be reported. -/
inductive Update where
  /-- A shutdown keeps the report of failures back. -/
  | suppressed (outcomes : Outcomes) (failed : outcomes.failed = true)
  /-- The report is told to the metrics and then written, with two readings of the clock. -/
  | told (outcomes : Outcomes) (degradedAt availableAt : String) (reply : Except Failure Unit)

namespace Update

def outcomes : Update → Outcomes
  | suppressed outcomes _ => outcomes
  | told outcomes _ _ _ => outcomes

def transcript : Update → Transcript calls
  | suppressed _ _ => [⟨.isShuttingDown, true⟩]
  | told outcomes degradedAt availableAt reply =>
      outcomes.inquiry ++ outcomes.writing degradedAt availableAt reply

def result : Update → Except Failure Unit
  | suppressed outcomes _ => .error outcomes.shutdownFailure
  | told outcomes _ _ reply => outcomes.resultAfter reply

/-- The conditions of an update that is not kept back, also if they could not be written. -/
def conditions? : Update → Option (List Condition)
  | suppressed _ _ => none
  | told outcomes degradedAt availableAt _ =>
      some [outcomes.degraded degradedAt, outcomes.available availableAt]

end Update

theorem Reported.exists_update {outcomes : Outcomes} {reporting : Transcript calls}
    {result : Except Failure Unit} (reported : Reported outcomes reporting result) :
    ∃ update : Update, update.outcomes = outcomes ∧ reporting = update.transcript ∧
      result = update.result := by
  cases reported with
  | suppressed failed => exact ⟨.suppressed outcomes failed, rfl, rfl, rfl⟩
  | written degradedAt availableAt reply =>
      exact ⟨.told outcomes degradedAt availableAt reply, rfl, rfl, rfl⟩

theorem Update.reported (update : Update) :
    Reported update.outcomes update.transcript update.result := by
  cases update with
  | suppressed outcomes failed => exact .suppressed failed
  | told outcomes degradedAt availableAt reply => exact .written degradedAt availableAt reply

theorem updateStatus_yields_iff_update (outcomes : Outcomes) (transcript : Transcript calls)
    (result : Except Failure Unit) :
    (updateStatus outcomes).Yields transcript result ↔
      ∃ update : Update, update.outcomes = outcomes ∧ transcript = update.transcript ∧
        result = update.result := by
  rw [updateStatus_yields_iff]
  constructor
  · exact Reported.exists_update
  · intro assembled
    obtain ⟨update, rfl, rfl, rfl⟩ := assembled
    exact update.reported

/-! ## Pieces of a run -/

inductive Piece where
  | deletion (deletion : Deletion)
  | attempt (attempt : Attempt)
  | update (update : Update)
  /-- A call that neither changes a registration nor reports. -/
  | inquiry (exchange : Exchange calls)
      (harmless : exchange.question.phase ∈ [.opening, .gate, .verification])

def Piece.transcript : Piece → Transcript calls
  | .deletion piece => piece.transcript
  | .attempt piece => piece.transcript
  | .update piece => piece.transcript
  | .inquiry exchange _ => [exchange]

def Piece.update? : Piece → Option Update
  | .update piece => some piece
  | _ => none

/-- A transcript consists of pieces, and these are the updates among them, in order. -/
def Consists (transcript : Transcript calls) (updates : List Update) : Prop :=
  ∃ pieces : List Piece, pieces.flatMap Piece.transcript = transcript ∧
    pieces.filterMap Piece.update? = updates

namespace Consists

variable {first last transcript : Transcript calls} {updates others : List Update}

theorem append (before : Consists first updates) (after : Consists last others) :
    Consists (first ++ last) (updates ++ others) := by
  obtain ⟨pieces, rfl, rfl⟩ := before
  obtain ⟨rest, rfl, rfl⟩ := after
  exact ⟨pieces ++ rest, List.flatMap_append, List.filterMap_append⟩

theorem piece (piece : Piece) : Consists piece.transcript piece.update?.toList :=
  ⟨[piece], List.append_nil _, by cases piece <;> rfl⟩

/-- Pieces of one kind that are no updates, one after the other. -/
theorem pieces {β : Type} (piece : β → Piece) (silent : ∀ value, (piece value).update? = none)
    (values : List β) : Consists (values.flatMap fun value => (piece value).transcript) [] := by
  refine ⟨values.map piece, List.flatMap_map .., ?_⟩
  rw [List.filterMap_map, List.filterMap_eq_nil_iff]
  exact fun value _ => silent value

theorem deletions (deletions : List Deletion) :
    Consists (deletions.flatMap Deletion.transcript) [] :=
  pieces .deletion (fun _ => rfl) deletions

theorem attempts (attempts : List Attempt) :
    Consists (attempts.flatMap Attempt.transcript) [] :=
  pieces .attempt (fun _ => rfl) attempts

theorem inquiries (harmless : ∀ exchange ∈ transcript,
    exchange.question.phase ∈ [.opening, .gate, .verification]) : Consists transcript [] := by
  induction transcript with
  | nil => exact ⟨[], rfl, rfl⟩
  | cons exchange rest ih =>
      obtain ⟨here, later⟩ := List.forall_mem_cons.mp harmless
      exact (piece (.inquiry exchange here)).append (ih later)

theorem within {phase : Phase} (harmless : phase ∈ [.opening, .gate, .verification])
    (inside : Within phase transcript) : Consists transcript [] :=
  inquiries fun exchange member => inside exchange member ▸ harmless

theorem update (update : Update) : Consists update.transcript [update] :=
  piece (.update update)

theorem opening (mode : ManagementState) (lists : ManagedRegistrations) :
    Consists [⟨.readMode, .ok mode⟩, ⟨.listManaged, .ok lists⟩] [] :=
  inquiries (by simp [Call.phase])

end Consists

theorem ManagedRun.exists_consists {prober : Bool} {lists : ManagedRegistrations}
    (run : ManagedRun prober lists.resolve) :
    ∃ update : Update, update.outcomes = run.outcomes ∧ Consists run.transcript [update] := by
  obtain ⟨update, same, reporting, -⟩ := run.reported.exists_update
  refine ⟨update, same, ?_⟩
  rw [transcript, exchanges_eq, show run.part .report = update.transcript from reporting]
  exact (Consists.opening .managed lists).append ((Consists.deletions run.deletions).append
    ((Consists.within (by decide) (run.within_part .gate)).append
    ((Consists.attempts run.attempts).append
    ((Consists.within (by decide) (run.within_part .verification)).append (.update update)))))

theorem Course.exists_consists {prober : Bool} {transcript : Transcript calls}
    {result : Except Failure Unit} (course : Course prober transcript result) :
    ∃ updates, Consists transcript updates := by
  cases course with
  | unread | unmanaged | unlisted | unknown =>
      exact ⟨[], .inquiries (by simp [Call.phase])⟩
  | @removed lists deletions names =>
      exact ⟨[], (Consists.opening .removed lists).append (.deletions deletions)⟩
  | managed run =>
      obtain ⟨update, -, consists⟩ := run.exists_consists
      exact ⟨[update], consists⟩

theorem Operation.exists_consists {operation : Operation} {transcript : Transcript calls}
    {result : Except Failure Unit} (ran : operation.program.Yields transcript result) :
    ∃ updates, Consists transcript updates := by
  cases operation with
  | sync prober => exact ((sync_yields_iff prober _ _).mp ran).exists_consists
  | syncDisabled registrations =>
      obtain ⟨deletions, -, rfl, -⟩ := (syncDisabled_yields_iff registrations _ _).mp ran
      exact ⟨[], .deletions deletions⟩
  | syncEnabled prober registrations =>
      obtain ⟨attempts, verifying, -, rfl, verified⟩ :=
        (syncEnabled_yields_iff prober registrations _ _).mp ran
      exact ⟨[], (Consists.attempts attempts).append (.within (by decide) verified.within)⟩
  | updateStatus outcomes =>
      obtain ⟨update, -, rfl, -⟩ := (updateStatus_yields_iff_update outcomes _ _).mp ran
      exact ⟨[update], .update update⟩

theorem exists_consists {operations : List Operation} {transcript : Transcript calls}
    {results : List (Except Failure Unit)}
    (ran : (carryOutAll operations).Yields transcript results) :
    ∃ updates, Consists transcript updates := by
  induction operations generalizing transcript results with
  | nil =>
      obtain ⟨rfl, -⟩ := (Interaction.yields_done_iff _ _ _).mp ran
      exact ⟨[], [], rfl, rfl⟩
  | cons operation rest ih =>
      simp only [carryOutAll, Interaction.yields_bind_iff, Interaction.pure_eq_done,
        Interaction.yields_done_iff] at ran
      obtain ⟨first, _, _, rfl, here, last, _, _, rfl, later, rfl, -⟩ := ran
      obtain ⟨updates, before⟩ := Operation.exists_consists here
      obtain ⟨others, after⟩ := ih later
      rw [List.append_nil]
      exact ⟨updates ++ others, before.append after⟩

/-! ## What the metrics make of observations -/

theorem deletes_observeAll (metrics : Metrics) (observed : List Observation) :
    (metrics.observeAll observed).deletes = metrics.deletes + observed.count .delete := by
  induction observed generalizing metrics with
  | nil => rfl
  | cons observation rest ih =>
      refine (ih (metrics.observe observation)).trans ?_
      cases observation <;> simp [Metrics.observe, Nat.add_right_comm, Nat.add_assoc]

/-- A series of applies begins with the first one that it counts. -/
theorem applies_observeAll (metrics : Metrics) (observed : List Observation) (changed : Bool) :
    (metrics.observeAll observed).applies.get? changed =
      if observed.count (.apply changed) = 0 then metrics.applies.get? changed
      else some ((metrics.applies.get? changed).getD 0 + observed.count (.apply changed)) := by
  induction observed generalizing metrics with
  | nil => rfl
  | cons observation rest ih =>
      refine (ih (metrics.observe observation)).trans ?_
      cases observation with
      | apply other =>
          simp only [Metrics.observe, Family.get?_alter, List.count_cons, beq_iff_eq,
            Observation.apply.injEq]
          by_cases same : changed = other
          · subst same
            by_cases last : rest.count (.apply changed) = 0
            · simp [last]
            · simp [last, Nat.add_assoc, Nat.add_comm 1]
          · simp [same, Ne.symm same]
      | _ => simp [Metrics.observe]

def gauge? (type : String) : Observation → Option Bool
  | .conditionStatus told holds => if told = type then some holds else none
  | _ => none

theorem gauges_observeAll (metrics : Metrics) (observed : List Observation) (type : String) :
    (metrics.observeAll observed).conditions.get? type =
      (observed.filterMap (gauge? type)).getLast?.or (metrics.conditions.get? type) := by
  induction observed generalizing metrics with
  | nil => rfl
  | cons observation rest ih =>
      refine (ih (metrics.observe observation)).trans ?_
      cases observation with
      | conditionStatus told holds =>
          simp only [Metrics.observe, Family.get?_alter, List.filterMap_cons, gauge?]
          by_cases same : told = type
          · subst same
            cases later : (rest.filterMap (gauge? told)).getLast? <;>
              simp [List.getLast?_cons, later]
          · simp [same, Ne.symm same]
      | _ => rfl

/-! ## Metrics after a run -/

/-- An exchange that asks the store to delete, whatever the reply. -/
def isDelete (exchange : Exchange calls) : Bool :=
  match exchange.question with
  | .delete _ => true
  | _ => false

/-- An exchange in which the store has applied a registration, with or without a difference. -/
def isApplied (changed : Bool) : Exchange calls → Bool
  | ⟨.apply _, .ok applied⟩ => applied.changed == changed
  | _ => false

/-- What an update that is not kept back says about conditions of a type. -/
def holds? (type : String) (conditions : List Condition) : Option Bool :=
  (Condition.find? conditions type).map fun condition => condition.status.isTrue

structure Metered (transcript : Transcript calls) (updates : List Update) (metrics : Metrics) :
    Prop where
  /-- Every call to delete counts, also one that fails or finds nothing. -/
  deletes : metrics.deletes = transcript.countP isDelete
  /-- Applies count by what they made of the store; those that fail count nowhere. -/
  applies : ∀ changed, metrics.applies.get? changed =
    if transcript.countP (isApplied changed) = 0 then none
    else some (transcript.countP (isApplied changed))
  /-- A gauge shows what the last update said that was not kept back, written or not. -/
  gauges : ∀ type, metrics.conditions.get? type =
    (updates.filterMap Update.conditions?).getLast?.bind (holds? type)

theorem observations_append (first last : Transcript calls) :
    observations (first ++ last) = observations first ++ observations last :=
  List.filterMap_append

theorem Piece.deletes_eq (piece : Piece) :
    (observations piece.transcript).count .delete = piece.transcript.countP isDelete := by
  cases piece with
  -- a deletion is the only piece that asks the store to delete, and it tells the metrics before
  | deletion deletion => cases deletion <;> rfl
  | attempt attempt =>
      obtain ⟨registration, reply⟩ := attempt
      cases reply <;> rfl
  | update update =>
      cases update with
      | suppressed => rfl
      | told outcomes degradedAt availableAt reply =>
          simp only [transcript, Update.transcript, Outcomes.inquiry]
          split <;> rfl
  | inquiry exchange harmless =>
      obtain ⟨question, reply⟩ := exchange
      cases question with
      | delete => simp [Call.phase] at harmless
      | observe observation => cases observation <;> simp [Call.phase] at harmless
      | _ => rfl

/-- The metrics are told of an apply where one has succeeded, and of what it made of the store. -/
theorem Piece.applies_eq (piece : Piece) (changed : Bool) :
    (observations piece.transcript).count (.apply changed) =
      piece.transcript.countP (isApplied changed) := by
  cases piece with
  | deletion deletion => cases deletion <;> rfl
  | attempt attempt =>
      obtain ⟨registration, reply⟩ := attempt
      cases reply with
      | error failure => rfl
      | ok applied =>
          simp [transcript, Attempt.transcript, observations, List.count_cons, List.countP_cons,
            isApplied]
  | update update =>
      cases update with
      | suppressed => rfl
      | told outcomes degradedAt availableAt reply =>
          simp only [transcript, Update.transcript, Outcomes.inquiry]
          split <;> rfl
  | inquiry exchange harmless =>
      obtain ⟨question, reply⟩ := exchange
      cases question with
      | apply => simp [Call.phase] at harmless
      | observe observation => cases observation <;> simp [Call.phase] at harmless
      | _ => rfl

theorem Update.observations_told (outcomes : Outcomes) (degradedAt availableAt : String)
    (reply : Except Failure Unit) :
    observations (Update.told outcomes degradedAt availableAt reply).transcript =
      [.conditionStatus Condition.degradedType (outcomes.degraded degradedAt).status.isTrue,
        .conditionStatus Condition.availableType
          (outcomes.available availableAt).status.isTrue] := by
  rw [← outcomes.degraded_type degradedAt, ← outcomes.available_type availableAt]
  simp only [transcript, Outcomes.inquiry]
  split <;> rfl

theorem holds?_told (type : String) (outcomes : Outcomes) (degradedAt availableAt : String) :
    holds? type [outcomes.degraded degradedAt, outcomes.available availableAt] =
      if type = Condition.degradedType then some (outcomes.degraded degradedAt).status.isTrue
      else if type = Condition.availableType then
        some (outcomes.available availableAt).status.isTrue
      else none := by
  simp only [holds?, Condition.find?, List.find?_cons, List.find?_nil, outcomes.degraded_type,
    outcomes.available_type]
  by_cases degraded : Condition.degradedType = type
  · simp [degraded]
  · by_cases available : Condition.availableType = type <;>
      simp [degraded, available, Ne.symm degraded, eq_comm (a := type)]

/-- The metrics are told what an update that is not kept back says, and nothing else. -/
theorem Piece.gauges_eq (piece : Piece) (type : String) :
    (observations piece.transcript).filterMap (gauge? type) =
      ((piece.update?.bind Update.conditions?).bind (holds? type)).toList := by
  cases piece with
  | deletion deletion => cases deletion <;> rfl
  | attempt attempt =>
      obtain ⟨registration, reply⟩ := attempt
      cases reply <;> rfl
  | update update =>
      cases update with
      | suppressed => rfl
      | told outcomes degradedAt availableAt reply =>
          have distinct : Condition.degradedType ≠ Condition.availableType := by decide
          simp only [transcript, Update.observations_told, update?, Update.conditions?,
            Option.bind_some, holds?_told]
          by_cases degraded : type = Condition.degradedType
          · subst degraded
            simp [gauge?, distinct.symm]
          · by_cases available : type = Condition.availableType
            · subst available
              simp [gauge?, distinct, distinct.symm]
            · simp [gauge?, Ne.symm degraded, Ne.symm available, degraded, available]
  | inquiry exchange harmless =>
      obtain ⟨question, reply⟩ := exchange
      cases question with
      | observe observation => cases observation <;> simp [Call.phase] at harmless
      | _ => rfl

/-- A count that is right for every piece is right for what consists of them. -/
theorem count_observations {observation : Observation} {made : Exchange calls → Bool}
    (each : ∀ piece : Piece,
      (observations piece.transcript).count observation = piece.transcript.countP made)
    (pieces : List Piece) :
    (observations (pieces.flatMap Piece.transcript)).count observation =
      (pieces.flatMap Piece.transcript).countP made := by
  induction pieces with
  | nil => rfl
  | cons piece rest ih =>
      rw [List.flatMap_cons, observations_append, List.count_append, List.countP_append, each, ih]

theorem gauges_observations (pieces : List Piece) (type : String) :
    (observations (pieces.flatMap Piece.transcript)).filterMap (gauge? type) =
      ((pieces.filterMap Piece.update?).filterMap Update.conditions?).filterMap (holds? type) := by
  induction pieces with
  | nil => rfl
  | cons piece rest ih =>
      rw [List.flatMap_cons, observations_append, List.filterMap_append, ih, piece.gauges_eq]
      cases made : piece.update? with
      | none => simp [made]
      | some update =>
          cases said : update.conditions? with
          | none => simp [made, said]
          | some conditions => cases told : holds? type conditions <;> simp [made, said, told]

/-- Every update tells of the same types, so the last one tells all that the gauges show. -/
theorem getLast?_holds (updates : List Update) (type : String) :
    ((updates.filterMap Update.conditions?).filterMap (holds? type)).getLast? =
      (updates.filterMap Update.conditions?).getLast?.bind (holds? type) := by
  have alike : ∀ conditions ∈ updates.filterMap Update.conditions?,
      (holds? type conditions).isSome =
        decide (type = Condition.degradedType ∨ type = Condition.availableType) := by
    intro conditions member
    obtain ⟨update, -, told⟩ := List.mem_filterMap.mp member
    cases update with
    | suppressed => cases told
    | told outcomes degradedAt availableAt reply =>
        cases told
        rw [holds?_told]
        grind
  rcases (updates.filterMap Update.conditions?).eq_nil_or_concat with none | ⟨earlier, last, same⟩
  · rw [none]
    rfl
  · rw [same, List.concat_eq_append] at alike ⊢
    rw [List.filterMap_append, List.getLast?_append, List.getLast?_concat]
    -- a type of which the last update does not tell is one of which no update tells
    cases told : holds? type last with
    | some holds => simp [told]
    | none =>
        have untold : earlier.filterMap (holds? type) = [] := by
          refine List.filterMap_eq_nil_iff.mpr ?_
          intro conditions member
          have same := (alike conditions (by simp [member])).trans (alike last (by simp)).symm
          simpa [told] using same
        simp [told, untold]

/-! ## The metrics of any run -/

theorem Consists.metered {transcript : Transcript calls} {updates : List Update}
    (consists : Consists transcript updates) :
    Metered transcript updates (Metrics.observeAll {} (observations transcript)) := by
  obtain ⟨pieces, rfl, rfl⟩ := consists
  refine ⟨?_, ?_, ?_⟩
  · rw [deletes_observeAll, count_observations Piece.deletes_eq]
    exact Nat.zero_add _
  · intro changed
    rw [applies_observeAll, count_observations (Piece.applies_eq · changed)]
    exact congrArg (ite _ _) (congrArg some (Nat.zero_add _))
  · intro type
    rw [gauges_observeAll, gauges_observations, getLast?_holds]
    exact Option.or_none

/-- After any sequence of operations, with any replies of the collaborators, the metrics show what
was done: the deletes that were asked for, the applies that succeeded, and what the last update said
that no shutdown has kept back. -/
theorem metrics_agree_with_calls {operations : List Operation} {transcript : Transcript calls}
    {results : List (Except Failure Unit)}
    (ran : (carryOutAll operations).Yields transcript results) :
    ∃ updates, Consists transcript updates ∧
      Metered transcript updates (Metrics.observeAll {} (observations transcript)) := by
  obtain ⟨updates, consists⟩ := exists_consists ran
  exact ⟨updates, consists, consists.metered⟩

/-- A cycle asks for two deletes, of which one fails, and applies something new; another delete is
asked for on its own. Its failure is reported as a condition. -/
theorem metrics_agree_with_calls_sample :
    let operations : List Operation := [.sync false, .syncDisabled World.sampleLists.enabled]
    let made := (carryOutAll operations).transcriptIn World.answer World.sampleWorld
    (∃ updates, Consists made updates ∧
        Metered made updates (Metrics.observeAll {} (observations made))) ∧
      (World.sampleWorld.run (carryOutAll operations)).2.metrics =
        { deletes := 3, applies := [(true, 1)]
          conditions := [("RegistrationsDegraded", true), ("RegistrationsAvailable", true)] } := by
  intro operations made
  refine ⟨metrics_agree_with_calls (Interaction.yields_transcriptIn _ _), ?_⟩
  decide +kernel

end Registrar.Cycle
