import Registrar.Proofs.World.Forecast
/-!
# What a managed cycle leaves in the store

After a managed cycle each name holds what the lists, the gate and the calls for that name alone make
of it: deletes and applies of other names, and their failures, do not matter.
-/

set_option autoImplicit false

namespace Registrar

open Interaction (Follows)
open Registrar.Cycle (Attempt ManagedRun calls)

namespace World

namespace Store

/-- Both stores hold the same under a name and treat it alike. -/
structure AlikeAt (name : String) (first last : Store) : Prop where
  held : last.get? name = first.get? name
  deleteFailure :
    (last.deleteFailures.lookup name).isSome = (first.deleteFailures.lookup name).isSome
  applyFailure : (last.applyFailures.lookup name).isSome = (first.applyFailures.lookup name).isSome
  finalizer : name ∈ last.finalizers ↔ name ∈ first.finalizers
  availability : last.availability.lookup name = first.availability.lookup name
  rename : last.renames.lookup name = first.renames.lookup name
  deletionTime : last.deletionTime = first.deletionTime

theorem AlikeAt.afterDelete_eq {name : String} {first last : Store}
    (alike : AlikeAt name first last) (held : Option Registration) :
    last.afterDelete name held = first.afterDelete name held := by
  unfold afterDelete
  cases held with
  | none => rfl
  | some existing =>
      simp only [alike.deleteFailure, alike.finalizer, marked, alike.deletionTime]

theorem AlikeAt.afterApply_eq {desired : Registration} {first last : Store}
    (alike : AlikeAt desired.name first last) (held : Option Registration) :
    last.afterApply desired held = first.afterApply desired held := by
  unfold afterApply stored
  simp only [alike.applyFailure, alike.availability, alike.rename]

theorem stored_eq {store : Store} {desired : Registration}
    (own : store.renames.lookup desired.name = none) :
    store.stored desired =
      { desired with status := (store.availability.lookup desired.name).map fun conditions =>
          ⟨conditions⟩ } := by
  simp [stored, own]

end Store

/-! ## The whole cycle -/

/-- What a managed cycle leaves under a name. -/
def settled (world : World) (lists : ManagedRegistrations) (name : String) :
    Option Registration :=
  match Registration.first? lists.enabled name with
  | some entry =>
      match world.gate.verdict lists.resolve.enabled with
      | .ok true => world.store.afterApply entry.withDefaults (world.store.get? name)
      | _ => world.store.get? name
  | none =>
      if name ∈ lists.disabled.map Registration.name then
        world.store.afterDelete name (world.store.get? name)
      else world.store.get? name

/-- Only an open gate brings an enabled entry its turn. -/
theorem first?_attempts {prober : Bool} {lists : ManagedRegistrations}
    (run : ManagedRun prober lists.resolve) (name : String) :
    Registration.first? (run.attempts.map Attempt.registration) name =
      match run.answer with
      | .ok true => Registration.first? lists.enabled name
      | _ => none := by
  rw [run.gated.registrations_eq]
  match run.answer with
  | .ok true => exact lists.first?_enabled_resolve name
  | .ok false => rfl
  | .error failure => rfl

theorem get?_of_managedRun {prober : Bool} {lists : ManagedRegistrations}
    (run : ManagedRun prober lists.resolve) {first last : World}
    (followed : Follows answer first run.exchanges last) (name : String) :
    last.store.get? name = first.settled lists name := by
  obtain ⟨served, ended⟩ := serves_of_follows followed
  obtain ⟨deleting, applying, same⟩ := run.serves_exchanges served
  have verdict : run.answer = first.gate.verdict lists.resolve.enabled := by
    rw [run.exchanges_eq] at followed
    obtain ⟨deleted, before, followed⟩ := Interaction.follows_append_iff.mp followed
    obtain ⟨_, answered, _⟩ := follows_cons followed
    rw [← answered, reply_check, gate_of_follows before]
  -- the two phases that change the store
  have afterDeletions : (first.store.after (run.part .deletion)).get? name = _ :=
    (Store.serves_deletions run.nodup_names_deletions deleting).2 name
  have afterAttempts : ((first.store.after (run.part .deletion)).after
      (run.part .application)).get? name = _ :=
    (Store.serves_attempts run.nodup_names_attempts applying).2 name
  rw [ended, same, afterAttempts, (first.store.alike_after _).afterApply_eq, afterDeletions,
    run.names, first?_attempts run, verdict]
  unfold settled
  cases entry : Registration.first? lists.enabled name with
  | some entry =>
      have notDeleted : name ∉ lists.resolve.disabled.map Registration.name := by
        rw [lists.mem_names_disabled_resolve, ← Registration.first?_isSome_iff, entry]
        simp
      rw [if_neg notDeleted]
      match first.gate.verdict lists.resolve.enabled with
      | .ok true => rfl
      | .ok false => rfl
      | .error failure => rfl
  | none =>
      have deletedIff : name ∈ lists.resolve.disabled.map Registration.name ↔
          name ∈ lists.disabled.map Registration.name := by
        rw [lists.mem_names_disabled_resolve, ← Registration.first?_isSome_iff, entry]
        simp
      simp only [deletedIff]
      match first.gate.verdict lists.resolve.enabled with
      | .ok true => rfl
      | .ok false => rfl
      | .error failure => rfl

/-- A world that instructs to manage, and lists, is where a managed cycle runs. -/
theorem exists_managedRun {world last : World} {prober : Bool} {lists : ManagedRegistrations}
    (managed : ManagementState.ofName world.mode = .managed) (readable : world.readFailure = none)
    (listed : world.source.list = .ok lists) {transcript : Transcript calls}
    {result : Except Failure Unit} (course : Cycle.Course prober transcript result)
    (followed : Follows answer world transcript last) :
    ∃ run : ManagedRun prober lists.resolve, transcript = run.transcript := by
  have instructed : ∀ {reply : Except Failure ManagementState} {rest : Transcript calls},
      Follows answer world (⟨.readMode, reply⟩ :: rest : Transcript calls) last →
        reply = .ok .managed := by
    intro reply rest followed
    obtain ⟨_, answered, _⟩ := follows_cons followed
    have told : succeedUnless world.readFailure (ManagementState.ofName world.mode) = reply :=
      answered
    rw [← told, readable, managed]
    rfl
  have known : ∀ {mode : Except Failure ManagementState}
      {reply : Except Failure ManagedRegistrations} {rest : Transcript calls},
      Follows answer world
          (⟨.readMode, mode⟩ :: ⟨.listManaged, reply⟩ :: rest : Transcript calls) last →
        reply = .ok lists := by
    intro mode reply rest followed
    obtain ⟨middle, _, affected, followed⟩ := follows_cons followed
    obtain ⟨_, answered, _⟩ := follows_cons followed
    have told : middle.source.list = reply := answered
    rw [← told, affected.source, listed]
  cases course with
  | unread failure => exact nomatch instructed followed
  | unmanaged => exact nomatch instructed followed
  | unknown mode => exact nomatch instructed followed
  | unlisted acting failure => exact nomatch known followed
  | removed names => exact nomatch instructed followed
  | managed run =>
      cases known followed
      exact ⟨run, rfl⟩

theorem get?_of_sync (world : World) (prober : Bool) {lists : ManagedRegistrations}
    (managed : ManagementState.ofName world.mode = .managed) (readable : world.readFailure = none)
    (listed : world.source.list = .ok lists) (name : String) :
    (world.run (Cycle.sync prober)).2.store.get? name = world.settled lists name := by
  have ran : ∃ transcript,
      (Cycle.sync prober).Yields transcript (world.run (Cycle.sync prober)).1 ∧
        Follows answer world transcript (world.run (Cycle.sync prober)).2 :=
    Interaction.exists_yields_follows (Cycle.sync prober) world
  obtain ⟨transcript, yields, followed⟩ := ran
  obtain ⟨run, rfl⟩ := exists_managedRun managed readable listed
    ((Cycle.sync_yields_iff prober _ _).mp yields) followed
  obtain ⟨instructed, _, reading, followed⟩ := follows_cons followed
  obtain ⟨informed, _, listing, followed⟩ := follows_cons followed
  have sameStore : informed.store = world.store := listing.store.trans reading.store
  have sameGate : informed.gate = world.gate := listing.gate.trans reading.gate
  rw [get?_of_managedRun run followed name]
  unfold settled
  rw [sameStore, sameGate]

/-- What is settled for a name depends on the store at this name only. -/
theorem settled_of_alikeAt {world : World} {lists : ManagedRegistrations} {name : String}
    {store : Store} (alike : Store.AlikeAt name world.store store) :
    ({ world with store := store } : World).settled lists name = world.settled lists name := by
  unfold settled
  rw [alike.held]
  cases found : Registration.first? lists.enabled name with
  | some entry =>
      have named : entry.withDefaults.name = name :=
        (Registration.name_withDefaults entry).trans (Registration.name_of_first? found)
      have applied := (named ▸ alike : Store.AlikeAt entry.withDefaults.name _ _).afterApply_eq
      simp only [applied]
  | none => simp only [alike.afterDelete_eq]

/-- Whatever a store holds and refuses, whatever the lists repeat and share, and whatever the gate
answers: a managed cycle that could read its lists settles every name, the outcome is that of the
calls for this name, and no other name plays a part in it. -/
theorem managed_sync_settles {world : World} (prober : Bool) {lists : ManagedRegistrations}
    (managed : ManagementState.ofName world.mode = .managed) (readable : world.readFailure = none)
    (listed : world.source.list = .ok lists) (name : String) :
    (world.run (Cycle.sync prober)).2.store.get? name = world.settled lists name ∧
      (∀ entry, Registration.first? lists.enabled name = some entry →
        world.store.renames.lookup name = none →
        world.store.stored entry.withDefaults =
          { entry.withDefaults with
            status := (world.store.availability.lookup name).map fun conditions =>
              ⟨conditions⟩ }) ∧
      ∀ store : Store, Store.AlikeAt name world.store store →
        (({ world with store := store } : World).run (Cycle.sync prober)).2.store.get? name =
          (world.run (Cycle.sync prober)).2.store.get? name := by
  have outcome := get?_of_sync _ prober managed readable listed name
  refine ⟨outcome, ?_, ?_⟩
  · intro entry found own
    have named : entry.withDefaults.name = name :=
      (Registration.name_withDefaults entry).trans (Registration.name_of_first? found)
    subst named
    exact Store.stored_eq own
  · intro store alike
    rw [outcome, ← settled_of_alikeAt alike]
    exact get?_of_sync { world with store := store } prober managed readable listed name

/-- Two old versions are to make way for a new one. -/
def sampleLists : ManagedRegistrations :=
  ⟨[sampleRegistration "v1"], [sampleRegistration "v1alpha1", sampleRegistration "v1beta1"]⟩

/-- A world that refuses one of the deletes. -/
def sampleWorld : World where
  store :=
    { objects := Objects.ofList sampleLists.disabled
      deleteFailures := [("v1alpha1.metrics.example.io", .io "connection reset")] }
  source := .fixed sampleLists

/-- The refused delete leaves its object; neither the other delete nor the apply suffers from it. -/
theorem managed_sync_settles_sample :
    let after := (sampleWorld.run (Cycle.sync false)).2.store
    after.get? "v1alpha1.metrics.example.io" = some (sampleRegistration "v1alpha1") ∧
      after.get? "v1beta1.metrics.example.io" = none ∧
      after.get? "v1.metrics.example.io" = some (sampleRegistration "v1") := by
  have settles : ∀ name, (sampleWorld.run (Cycle.sync false)).2.store.get? name =
      sampleWorld.settled sampleLists name :=
    fun name => (managed_sync_settles false rfl rfl rfl name).1
  refine ⟨(settles _).trans ?_, (settles _).trans ?_, (settles _).trans ?_⟩ <;> decide

end World

end Registrar
