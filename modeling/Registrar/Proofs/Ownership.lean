import Registrar.Proofs.Cycle.Evidence
/-!
# Only owned registrations are touched

A cycle deletes and applies nothing but what the source listed in that same cycle, and each of these
at most once. A delete follows upon a look at a live object, and an apply upon the instruction to
manage. Nothing is assumed about the replies, so the store, the source and the instruction may change
in any way from one cycle to the next and also while a cycle is under way.
-/

set_option autoImplicit false

namespace Registrar.Cycle

/-- What comes before a delete: the name was listed, it is not also enabled unless everything is to
go, and the cache has just shown a live object under it. -/
structure MayDelete (before : Transcript calls) (name : String) : Prop where
  instructed : instructions before = [.managed] ∨ instructions before = [.removed]
  listed : ∃ lists, listings before = [lists] ∧ name ∈ lists.names ∧
    (instructions before = [.managed] → name ∉ lists.enabled.map Registration.name)
  seen : ∃ earlier existing, existing.metadata.deletionTimestamp = none ∧
    before = earlier ++ [⟨.cached name, some existing⟩, ⟨.observe .delete, ()⟩]

/-- What comes before an apply: the instruction to manage, and lists whose first enabled entry of
that name is the one that is applied, with its defaults. -/
structure MayApply (before : Transcript calls) (desired : Registration) : Prop where
  instructed : instructions before = [.managed]
  listed : ∃ lists entry, listings before = [lists] ∧
    Registration.first? lists.enabled desired.name = some entry ∧ desired = entry.withDefaults

/-- A change to a registration is one that the exchanges before it allow. -/
def Permitted (before : Transcript calls) (exchange : Exchange calls) : Prop :=
  match exchange.question with
  | .delete name => MayDelete before name
  | .apply desired => MayApply before desired
  | _ => True

/-- What a cycle does to registrations, told by its transcript. -/
structure Owned (transcript : Transcript calls) : Prop where
  /-- Without the instruction to act, nothing is asked but the instruction itself. -/
  idle : ∀ mode ∈ instructions transcript, (mode = .unmanaged ∨ ∃ name, mode = .unknown name) →
    ∀ exchange ∈ transcript,
      exchange.question = .readMode ∨ ∃ reason message, exchange.question = .warn reason message
  delete : ∀ before name reply after, transcript = before ++ ⟨.delete name, reply⟩ :: after →
    MayDelete before name
  apply : ∀ before desired reply after, transcript = before ++ ⟨.apply desired, reply⟩ :: after →
    MayApply before desired
  /-- No name is changed twice, be it by a delete and an apply. -/
  once : (mutations transcript).Nodup

/-! ## One phase after the other -/

/-- A look at a live object permits the delete that follows it. -/
theorem mayDelete_of_seen {lists : ManagedRegistrations} {mode : ManagementState}
    (acting : mode = .managed ∨ mode = .removed) {name : String} (member : name ∈ lists.names)
    (unwanted : mode = .managed → name ∉ lists.enabled.map Registration.name)
    {past : Transcript calls} (instructed : instructions past = [mode])
    (listed : listings past = [lists]) {existing : Registration}
    (live : existing.isDeleting = false) :
    MayDelete (past ++ [⟨.cached name, some existing⟩, ⟨.observe .delete, ()⟩]) name := by
  have later : ∀ exchange ∈
      ([⟨.cached name, some existing⟩, ⟨.observe .delete, ()⟩] : Transcript calls),
      exchange.question.phase ≠ .opening := by
    simp [Call.phase]
  constructor
  · rw [instructions_append past later, instructed]
    exact acting.imp (congrArg ([·])) (congrArg ([·]))
  · refine ⟨lists, by rw [listings_append past later, listed], member, ?_⟩
    rw [instructions_append past later, instructed]
    intro managed
    exact unwanted (List.cons.inj managed).1
  · exact ⟨past, existing, existing.isDeleting_eq_false_iff.mp live, rfl⟩

/-- Deletions of listed names are permitted, from the moment the lists are known. -/
theorem permitted_deletions {lists : ManagedRegistrations} {mode : ManagementState}
    (acting : mode = .managed ∨ mode = .removed) (deletions : List Deletion)
    (owned : ∀ name ∈ deletions.map Deletion.name, name ∈ lists.names ∧
      (mode = .managed → name ∉ lists.enabled.map Registration.name))
    {past : Transcript calls} (instructed : instructions past = [mode])
    (listed : listings past = [lists]) :
    Transcript.Justified Permitted past (deletions.flatMap Deletion.transcript) := by
  induction deletions generalizing past with
  | nil => trivial
  | cons deletion rest ih =>
      obtain ⟨⟨member, unwanted⟩, ownedRest⟩ := List.forall_mem_cons.mp owned
      have later := deletion.within.ne (by decide : Phase.deletion ≠ .opening)
      rw [List.flatMap_cons, Transcript.justified_append]
      refine ⟨?_, ih ownedRest ?_ ?_⟩
      · cases deletion with
        | absent name => exact ⟨trivial, trivial⟩
        | underway name existing deleting => exact ⟨trivial, trivial⟩
        | issued name existing live reply =>
            refine ⟨trivial, trivial, ?_, trivial⟩
            rw [List.append_assoc]
            exact mayDelete_of_seen acting member unwanted instructed listed live
      · rw [instructions_append past later, instructed]
      · rw [listings_append past later, listed]

/-- Applies of first enabled entries are permitted, from the moment the lists are known. -/
theorem permitted_attempts {lists : ManagedRegistrations} (attempts : List Attempt)
    (first : ∀ registration ∈ attempts.map Attempt.registration,
      Registration.first? lists.enabled registration.name = some registration)
    {past : Transcript calls} (instructed : instructions past = [.managed])
    (listed : listings past = [lists]) :
    Transcript.Justified Permitted past (attempts.flatMap Attempt.transcript) := by
  induction attempts generalizing past with
  | nil => trivial
  | cons attempt rest ih =>
      obtain ⟨firstEntry, firstRest⟩ := List.forall_mem_cons.mp first
      have later := attempt.within.ne (by decide : Phase.application ≠ .opening)
      rw [List.flatMap_cons, Transcript.justified_append]
      refine ⟨?_, ih firstRest ?_ ?_⟩
      · obtain ⟨registration, reply⟩ := attempt
        have permitted : MayApply past registration.withDefaults :=
          ⟨instructed, lists, registration, listed, firstEntry, rfl⟩
        cases reply with
        | error failure => exact ⟨permitted, trivial⟩
        | ok applied => exact ⟨permitted, trivial, trivial⟩
      · rw [instructions_append past later, instructed]
      · rw [listings_append past later, listed]

/-- Where nothing is deleted or applied, everything is permitted. -/
theorem permitted_elsewhere {phase : Phase} (notDeletion : phase ≠ .deletion)
    (notApplication : phase ≠ .application) {transcript : Transcript calls}
    (within : Within phase transcript) (past : Transcript calls) :
    Transcript.Justified Permitted past transcript := by
  refine Transcript.justified_of_extensions ?_
  intro exchange member later
  unfold Permitted
  split
  · next question =>
      exact absurd (congrArg Call.phase question) (within.ne notDeletion exchange member)
  · next question =>
      exact absurd (congrArg Call.phase question) (within.ne notApplication exchange member)
  · trivial

/-- The names whose turn it is in a phase of deletions were listed, and are not enabled. -/
theorem owned_disabled (lists : ManagedRegistrations) (name : String)
    (disabled : name ∈ lists.resolve.disabled.map Registration.name) :
    name ∈ lists.names ∧ name ∉ lists.enabled.map Registration.name := by
  obtain ⟨unwanted, listed⟩ := (lists.mem_names_disabled_resolve name).mp disabled
  refine ⟨?_, unwanted⟩
  rw [ManagedRegistrations.names, List.map_append]
  exact List.mem_append_right _ listed

/-- Everything that a managed cycle does is permitted, once its instruction and lists are known. -/
theorem ManagedRun.permitted {prober : Bool} {lists : ManagedRegistrations}
    (run : ManagedRun prober lists.resolve) {past : Transcript calls}
    (instructed : instructions past = [.managed]) (listed : listings past = [lists]) :
    Transcript.Justified Permitted past run.exchanges := by
  have earlier : ∀ exchange ∈ run.part .deletion ++ run.part .gate,
      exchange.question.phase ≠ .opening := by
    intro exchange member
    rcases List.mem_append.mp member with member | member <;>
      exact (run.within_part _).ne (by decide) exchange member
  rw [run.exchanges_eq, ← List.append_assoc]
  simp only [Transcript.justified_append]
  refine ⟨⟨?_, permitted_elsewhere (by decide) (by decide) (run.within_part .gate) _⟩, ?_,
    permitted_elsewhere (by decide) (by decide) (run.within_part .verification) _,
    permitted_elsewhere (by decide) (by decide) (run.within_part .report) _⟩
  · refine permitted_deletions (.inl rfl) run.deletions ?_ instructed listed
    intro name member
    rw [run.names] at member
    exact ⟨(owned_disabled lists name member).1, fun _ => (owned_disabled lists name member).2⟩
  · have first : ∀ registration ∈ run.attempts.map Attempt.registration,
        Registration.first? lists.enabled registration.name = some registration := by
      intro registration member
      rw [← lists.first?_enabled_resolve]
      exact Registration.first?_of_nodup lists.nodup_names_enabled_resolve
        (run.gated.registrations_sublist.mem member)
    exact permitted_attempts run.attempts first
      (by rw [instructions_append past earlier, instructed])
      (by rw [listings_append past earlier, listed])

/-! ## Whole cycles and runs of cycles -/

theorem Course.permitted {prober : Bool} {transcript : Transcript calls}
    {result : Except Failure Unit} (course : Course prober transcript result) :
    Transcript.Justified Permitted [] transcript := by
  cases course with
  | unread | unmanaged => exact ⟨trivial, trivial⟩
  | unknown | unlisted => exact ⟨trivial, trivial, trivial⟩
  | @removed lists deletions names =>
      refine ⟨trivial, trivial, permitted_deletions (.inr rfl) deletions ?_ rfl rfl⟩
      intro name member
      rw [names, lists.mem_names_resolve] at member
      exact ⟨member, by simp⟩
  | managed run => exact ⟨trivial, trivial, run.permitted rfl rfl⟩

theorem Course.nodup_mutations {prober : Bool} {transcript : Transcript calls}
    {result : Except Failure Unit} (course : Course prober transcript result) :
    (mutations transcript).Nodup := by
  cases course with
  | unread | unmanaged | unknown | unlisted => exact List.nodup_nil
  | @removed lists deletions names =>
      exact lists.nodup_names_resolve.sublist (names ▸ mutations_deletions deletions)
  | @managed lists run =>
      have unique := lists.nodup_names_resolve
      rw [ManagedRegistrations.names, List.map_append] at unique
      have ordered := List.perm_append_comm.nodup_iff.mp unique
      change (mutations run.exchanges).Nodup
      rw [run.mutations_exchanges]
      exact ordered.sublist ((run.names ▸ mutations_deletions run.deletions).append
        (run.gated.registrations_sublist.map Registration.name))

/-- What one cycle does to registrations. -/
theorem Course.owned {prober : Bool} {transcript : Transcript calls}
    {result : Except Failure Unit} (course : Course prober transcript result) :
    Owned transcript := by
  refine ⟨?_, ?_, ?_, course.nodup_mutations⟩
  · intro mode read inactive exchange member
    obtain ⟨rest, rfl⟩ := course.eq_cons_of_instructed read
    cases course with
    | unmanaged =>
        obtain rfl := List.mem_singleton.mp member
        exact .inl rfl
    | unknown name =>
        rcases List.mem_cons.mp member with rfl | member
        · exact .inl rfl
        · obtain rfl := List.mem_singleton.mp member
          exact .inr ⟨_, _, rfl⟩
    | unlisted acting => rcases acting with rfl | rfl <;> simp at inactive
    | removed | managed => simp at inactive
  · intro before name reply after split
    exact course.permitted.of_split split
  · intro before desired reply after split
    exact course.permitted.of_split split

/-- Cycles that were run to their end, one after the other, whatever the replies. -/
inductive Run (prober : Bool) : List (Transcript calls) → Prop where
  | start : Run prober []
  | cycle {earlier : List (Transcript calls)} {transcript : Transcript calls}
      {result : Except Failure Unit} :
      Run prober earlier → (sync prober).Yields transcript result →
      Run prober (earlier ++ [transcript])

theorem Run.owned {prober : Bool} {cycles : List (Transcript calls)} (run : Run prober cycles) :
    ∀ transcript ∈ cycles, Owned transcript := by
  induction run with
  | start =>
      intro transcript member
      cases member
  | cycle _ yields ih =>
      intro transcript member
      rcases List.mem_append.mp member with member | member
      · exact ih transcript member
      · obtain rfl := List.mem_singleton.mp member
        exact ((sync_yields_iff prober _ _).mp yields).owned

/-- What a cycle changes was listed in it. -/
theorem Owned.listed_of_mutated {transcript : Transcript calls} (owned : Owned transcript)
    {name : String} (mutated : name ∈ mutations transcript) :
    ∃ lists ∈ listings transcript, name ∈ lists.names := by
  obtain ⟨⟨question, reply⟩, member, told⟩ := List.mem_filterMap.mp mutated
  obtain ⟨before, after, rfl⟩ := List.append_of_mem member
  have earlier : ∀ {lists}, listings before = [lists] →
      lists ∈ listings (before ++ ⟨question, reply⟩ :: after) := by
    intro lists listed
    unfold listings at listed ⊢
    rw [listing.found_append, listed]
    exact .head _
  cases question with
  | delete deleted =>
      obtain rfl : deleted = name := by simpa [mutated?] using told
      obtain ⟨lists, listed, named, _⟩ := (owned.delete before deleted reply after rfl).listed
      exact ⟨lists, earlier listed, named⟩
  | apply desired =>
      obtain rfl : desired.name = name := by simpa [mutated?] using told
      obtain ⟨lists, entry, listed, first, same⟩ :=
        (owned.apply before desired reply after rfl).listed
      refine ⟨lists, earlier listed, ?_⟩
      have enabled : desired.name ∈ lists.enabled.map Registration.name := by
        rw [← Registration.first?_isSome_iff, first]
        rfl
      rw [ManagedRegistrations.names, List.map_append]
      exact List.mem_append_left _ enabled
  | _ => cases told

/-- However the instruction, the lists, the store and all other replies change in a run of cycles,
every cycle touches only what it was told that it owns, so a name that is never listed is never
touched. -/
theorem Run.mutates_only_listed {prober : Bool} {cycles : List (Transcript calls)}
    (run : Run prober cycles) :
    (∀ transcript ∈ cycles, Owned transcript) ∧
      ∀ name, (∀ transcript ∈ cycles, ∀ lists ∈ listings transcript, name ∉ lists.names) →
        ∀ transcript ∈ cycles, name ∉ mutations transcript := by
  refine ⟨run.owned, ?_⟩
  intro name unlisted transcript member mutated
  obtain ⟨lists, listed, named⟩ := (run.owned transcript member).listed_of_mutated mutated
  exact unlisted transcript member lists listed named

/-- A cycle that replaces an old version by a new one, which is listed in both lists. -/
def sampleUpgrade : Transcript calls :=
  [⟨.readMode, .ok .managed⟩,
    ⟨.listManaged, .ok
      ⟨[sampleRegistration "v1"], [sampleRegistration "v1beta1", sampleRegistration "v1"]⟩⟩,
    ⟨.cached "v1beta1.metrics.example.io", some (sampleRegistration "v1beta1")⟩,
    ⟨.observe .delete, ()⟩, ⟨.delete "v1beta1.metrics.example.io", .ok ()⟩,
    ⟨.check [sampleRegistration "v1"], .ok true⟩,
    ⟨.apply (sampleRegistration "v1"), .ok ⟨sampleRegistration "v1", true⟩⟩,
    ⟨.observe (.apply true), ()⟩, ⟨.now, ""⟩, ⟨.now, ""⟩,
    ⟨.observe (.conditionStatus "RegistrationsDegraded" false), ()⟩,
    ⟨.observe (.conditionStatus "RegistrationsAvailable" true), ()⟩,
    ⟨.writeConditions [.notDegraded "", .available ""], .ok ()⟩]

/-- A cycle after the instruction and the lists have changed: everything is to go. -/
def sampleRemoval : Transcript calls :=
  [⟨.readMode, .ok .removed⟩, ⟨.listManaged, .ok ⟨[sampleRegistration "v1"], []⟩⟩,
    ⟨.cached "v1.metrics.example.io", some (sampleRegistration "v1")⟩, ⟨.observe .delete, ()⟩,
    ⟨.delete "v1.metrics.example.io", .error (.io "connection reset")⟩]

/-- An upgrade and a removal that fails leave alone what a user has registered. -/
theorem mutates_only_listed_upgrade_removal :
    Run false [sampleUpgrade, sampleRemoval] ∧
      (∀ transcript ∈ [sampleUpgrade, sampleRemoval], Owned transcript) ∧
      ∀ transcript ∈ [sampleUpgrade, sampleRemoval],
        "v1.users.example.io" ∉ mutations transcript := by
  have upgrade : (sync false).Yields sampleUpgrade (.ok ()) :=
    .ask (.ask (.ask (.ask (.ask (.ask (.ask (.ask (.ask (.ask (.ask (.ask (.ask (.done _)))))))))))))
  have removal : (sync false).Yields sampleRemoval
      (.error (.aggregate [.io "connection reset"])) :=
    .ask (.ask (.ask (.ask (.ask (.done _)))))
  have run : Run false [sampleUpgrade, sampleRemoval] :=
    .cycle (.cycle .start upgrade) removal
  exact ⟨run, run.mutates_only_listed.1, run.mutates_only_listed.2 "v1.users.example.io" (by decide)⟩

end Registrar.Cycle
