import Mathlib.Data.List.Nodup
import Mathlib.Logic.Function.Basic
import Registrar.Proofs.Cycle.Evidence
import Registrar.Readiness
/-!
# Worlds that keep registrations by name

In such a world a name is a matter of its own: what the store tells of it, and what a delete or an
apply makes of it, depends on what is held under that name and on nothing else. So a phase of a
cycle that takes up names one after the other comes to the same in whatever order it takes them. All
else in the world may depend on everything that is held.
-/

set_option autoImplicit false

namespace Registrar

open Interaction (Follows)
open Registrar.Cycle (Applied Attempt Call Deletion calls)
open Readiness (ServiceKey)

/-- All of a condition but its message. -/
def Condition.unworded (condition : Condition) : Condition :=
  { condition with message := "" }

/-- How a world answers. There is a `σ` for every name, which is all that the store knows of it, and
there is a `τ` for everything else, with an eye on what is held. No shutdown is in effect. -/
structure KeyedWorld (σ τ : Type) where
  cached : String → σ → Option Registration
  delete : String → StateM σ (Except Failure Unit)
  apply : Registration → StateM σ (Except Failure Applied)
  /-- The namespace of services that are referred to without one. -/
  home : String
  endpoints : ServiceKey → (String → σ) → StateM τ (Except Failure (Option Endpoints))
  missing : List GroupVersion → (String → σ) → StateM τ (List String)
  now : (String → σ) → StateM τ String
  receive : List Condition → (String → σ) → StateM τ (Except Failure Unit)

theorem Registration.live_of_not (existing : Registration)
    (standing : ¬ existing.isDeleting = true) : existing.isDeleting = false :=
  Bool.eq_false_iff.mpr standing

/-- What a world holds, and the services whose endpoints were read in it, in order. -/
structure Situation (σ τ : Type) where
  held : String → σ
  around : τ
  reads : List ServiceKey := []

namespace Situation

variable {σ τ κ α : Type}

def hold (situation : Situation σ τ) (name : String) (left : σ) : Situation σ τ :=
  { situation with held := Function.update situation.held name left }

/-- A step that concerns one name. -/
def atName (name : String) (step : StateM σ α) : StateM (Situation σ τ) α :=
  modifyGet fun situation =>
    let (reply, left) := step.run (situation.held name)
    (reply, situation.hold name left)

/-- A step that leaves all names as they are. -/
def outside (step : (String → σ) → StateM τ α) : StateM (Situation σ τ) α :=
  modifyGet fun situation =>
    let (reply, around) := (step situation.held).run situation.around
    (reply, { situation with around := around })

/-! ## Keys that are taken up one after the other -/

/-- The situation after keys were taken up in order, each of which leaves something under its
name. -/
def settle (name : κ → String) (left : κ → σ → σ) (situation : Situation σ τ) (keys : List κ) :
    Situation σ τ :=
  keys.foldl
    (fun moment key => moment.hold (name key) (left key (moment.held (name key)))) situation

variable {name : κ → String} {left : κ → σ → σ}

/-- Keys of two names do not get into each other's way. -/
theorem hold_hold_comm (situation : Situation σ τ) {first last : String} (different : first ≠ last)
    (value other : σ) :
    (situation.hold first value).hold last other =
      (situation.hold last other).hold first value := by
  unfold hold
  rw [Function.update_comm different]

@[simp]
theorem hold_held (situation : Situation σ τ) (name : String) :
    situation.hold name (situation.held name) = situation := by
  unfold hold
  rw [Function.update_eq_self]

theorem held_hold_of_ne (situation : Situation σ τ) {first last : String} (different : last ≠ first)
    (value : σ) : (situation.hold first value).held last = situation.held last :=
  Function.update_of_ne different _ _

/-- The order of keys with names of their own makes no difference. -/
theorem settle_perm (situation : Situation σ τ) {keys others : List κ}
    (unique : (keys.map name).Nodup) (order : others.Perm keys) :
    situation.settle name left others = situation.settle name left keys := by
  refine order.foldl_eq' ?_ situation
  intro first firstMember last lastMember between
  by_cases same : name first = name last
  · have equal : first = last := List.inj_on_of_nodup_map unique (order.mem_iff.mp firstMember)
      (order.mem_iff.mp lastMember) same
    rw [equal]
  · rw [held_hold_of_ne _ (Ne.symm same), held_hold_of_ne _ same]
    exact between.hold_hold_comm same _ _

end Situation

namespace KeyedWorld

variable {σ τ : Type}

/-- Read the endpoints of a service, and remember that they were read. -/
def read (world : KeyedWorld σ τ) (key : ServiceKey) :
    StateM (Situation σ τ) (Except Failure (Option Endpoints)) := do
  modify fun situation => { situation with reads := situation.reads ++ [key] }
  Situation.outside (world.endpoints key)

/-- The answers of a world that has the cycle manage these lists. -/
def answer (world : KeyedWorld σ τ) (lists : ManagedRegistrations) :
    (question : Call) → StateM (Situation σ τ) question.Reply
  | .readMode => pure (.ok .managed)
  | .listManaged => pure (.ok lists)
  | .cached name =>
      modifyGet fun situation => (world.cached name (situation.held name), situation)
  | .delete name => Situation.atName name (world.delete name)
  | .check enabled => (Readiness.check world.home enabled).interpret world.read
  | .apply desired => Situation.atName desired.name (world.apply desired)
  | .probe groupVersions => Situation.outside (world.missing groupVersions)
  | .writeConditions conditions => Situation.outside (world.receive conditions)
  | .warn _ _ => pure ()
  | .isShuttingDown => pure false
  | .now => Situation.outside world.now
  | .observe _ => pure ()

/-- The reply to conditions that are written in a situation. -/
def replyIn (world : KeyedWorld σ τ) (moment : Situation σ τ) (conditions : List Condition) :
    Except Failure Unit :=
  ((world.receive conditions moment.held).run moment.around).1

/-- Whether conditions are accepted is not decided by their messages. -/
def IgnoresMessages (world : KeyedWorld σ τ) : Prop :=
  ∀ moment conditions others,
    conditions.map Condition.unworded = others.map Condition.unworded →
      world.replyIn moment conditions = world.replyIn moment others

/-- The two readings of the clock in a report. -/
def readings (world : KeyedWorld σ τ) : StateM (Situation σ τ) (String × String) := do
  let degradedAt ← Situation.outside world.now
  let availableAt ← Situation.outside world.now
  return (degradedAt, availableAt)

variable {world : KeyedWorld σ τ} {lists : ManagedRegistrations} {first last : Situation σ τ}

/-! ## Phases -/

section Phase

variable {κ β : Type} {left : κ → σ → σ} {forecast : κ → σ → β} {exchanges : β → Transcript calls}

/-- A phase takes up every key as the world holds its name when the phase begins. -/
theorem follows_flatMap (key : β → κ) (name : κ → String)
    (each : ∀ {value first last}, Follows (world.answer lists) first (exchanges value) last →
      value = forecast (key value) (first.held (name (key value))) ∧
        last = first.hold (name (key value)) (left (key value) (first.held (name (key value)))))
    {values : List β} (unique : ((values.map key).map name).Nodup)
    (followed : Follows (world.answer lists) first (values.flatMap exchanges) last) :
    values = (values.map key).map (fun key => forecast key (first.held (name key))) ∧
      last = first.settle name left (values.map key) := by
  induction values generalizing first with
  | nil =>
      cases followed
      exact ⟨rfl, rfl⟩
  | cons value rest ih =>
      obtain ⟨fresh, uniqueRest⟩ := List.nodup_cons.mp unique
      rw [List.flatMap_cons] at followed
      obtain ⟨middle, here, later⟩ := Interaction.follows_append_iff.mp followed
      obtain ⟨told, rfl⟩ := each here
      obtain ⟨forecasts, ended⟩ := ih uniqueRest later
      refine ⟨?_, ended⟩
      -- the first key leaves the names of the others as they were
      have undisturbed : (rest.map key).map (fun other =>
          forecast other ((first.hold (name (key value))
            (left (key value) (first.held (name (key value))))).held (name other))) =
          (rest.map key).map fun other => forecast other (first.held (name other)) := by
        refine List.map_congr_left fun other member => ?_
        have different : name other ≠ name (key value) :=
          fun same => fresh (same ▸ List.mem_map_of_mem member)
        rw [Situation.held_hold_of_ne _ different]
      rw [List.map_cons, List.map_cons, ← told, ← undisturbed, ← forecasts]

end Phase

/-! ## What becomes of one name -/

def deletionOf (world : KeyedWorld σ τ) (name : String) (held : σ) : Deletion :=
  match world.cached name held with
  | none => .absent name
  | some existing =>
      if deleting : existing.isDeleting = true then .underway name existing deleting
      else .issued name existing (existing.live_of_not deleting) ((world.delete name).run held).1

def afterDeletion (world : KeyedWorld σ τ) (name : String) (held : σ) : σ :=
  match world.deletionOf name held with
  | .issued .. => ((world.delete name).run held).2
  | _ => held

def attemptOf (world : KeyedWorld σ τ) (registration : Registration) (held : σ) : Attempt :=
  ⟨registration, ((world.apply registration.withDefaults).run held).1⟩

def afterAttempt (world : KeyedWorld σ τ) (registration : Registration) (held : σ) : σ :=
  ((world.apply registration.withDefaults).run held).2

theorem follows_deletion {deletion : Deletion}
    (followed : Follows (world.answer lists) first deletion.transcript last) :
    deletion = world.deletionOf deletion.name (first.held deletion.name) ∧
      last = first.hold deletion.name
        (world.afterDeletion deletion.name (first.held deletion.name)) := by
  cases deletion with
  | absent name =>
      obtain ⟨missing, ended⟩ := Interaction.follows_cons_iff.mp followed
      obtain rfl : last = first := Interaction.follows_nil_iff.mp ended
      have missing : world.cached name (last.held name) = none := missing
      have told : world.deletionOf name (last.held name) = .absent name := by
        simp [deletionOf, missing]
      simp [Deletion.name, afterDeletion, told]
  | underway name existing deleting =>
      obtain ⟨found, ended⟩ := Interaction.follows_cons_iff.mp followed
      obtain rfl : last = first := Interaction.follows_nil_iff.mp ended
      have found : world.cached name (last.held name) = some existing := found
      have told : world.deletionOf name (last.held name) = .underway name existing deleting := by
        simp [deletionOf, found, deleting]
      simp [Deletion.name, afterDeletion, told]
  | issued name existing live reply =>
      obtain ⟨found, counted⟩ := Interaction.follows_cons_iff.mp followed
      obtain ⟨-, deleted⟩ := Interaction.follows_cons_iff.mp counted
      obtain ⟨replied, ended⟩ := Interaction.follows_cons_iff.mp deleted
      obtain rfl := Interaction.follows_nil_iff.mp ended
      have found : world.cached name (first.held name) = some existing := found
      have replied : ((world.delete name).run (first.held name)).1 = reply := replied
      have told : world.deletionOf name (first.held name) = .issued name existing live reply := by
        simp [deletionOf, found, live, replied]
      rw [Deletion.name, afterDeletion, told]
      exact ⟨rfl, rfl⟩

theorem follows_attempt {attempt : Attempt}
    (followed : Follows (world.answer lists) first attempt.transcript last) :
    attempt = world.attemptOf attempt.registration (first.held attempt.registration.name) ∧
      last = first.hold attempt.registration.name
        (world.afterAttempt attempt.registration (first.held attempt.registration.name)) := by
  obtain ⟨registration, reply⟩ := attempt
  obtain ⟨replied, counted⟩ := Interaction.follows_cons_iff.mp followed
  refine ⟨congrArg (Attempt.mk registration) replied.symm, ?_⟩
  cases reply with
  | error failure => exact Interaction.follows_nil_iff.mp counted
  | ok applied =>
      exact Interaction.follows_nil_iff.mp (Interaction.follows_cons_iff.mp counted).2

theorem follows_deletions {deletions : List Deletion}
    (unique : (deletions.map Deletion.name).Nodup)
    (followed : Follows (world.answer lists) first (deletions.flatMap Deletion.transcript) last) :
    deletions =
        (deletions.map Deletion.name).map (fun name => world.deletionOf name (first.held name)) ∧
      last = first.settle id world.afterDeletion (deletions.map Deletion.name) :=
  follows_flatMap Deletion.name id follows_deletion (by rwa [List.map_id]) followed

theorem follows_attempts {attempts : List Attempt}
    (unique : ((attempts.map Attempt.registration).map Registration.name).Nodup)
    (followed : Follows (world.answer lists) first (attempts.flatMap Attempt.transcript) last) :
    attempts = (attempts.map Attempt.registration).map
        (fun registration => world.attemptOf registration (first.held registration.name)) ∧
      last = first.settle Registration.name world.afterAttempt
        (attempts.map Attempt.registration) :=
  follows_flatMap Attempt.registration Registration.name follows_attempt unique followed

/-- Deletions of the same names go the same way and leave the same, whatever their order. -/
theorem deletions_perm {other : ManagedRegistrations} {deletions others : List Deletion}
    {lastOther : Situation σ τ} (unique : (deletions.map Deletion.name).Nodup)
    (order : (others.map Deletion.name).Perm (deletions.map Deletion.name))
    (followed : Follows (world.answer lists) first (deletions.flatMap Deletion.transcript) last)
    (followedOther :
      Follows (world.answer other) first (others.flatMap Deletion.transcript) lastOther) :
    others.Perm deletions ∧ lastOther = last := by
  obtain ⟨forecast, rfl⟩ := follows_deletions unique followed
  obtain ⟨forecastOther, rfl⟩ := follows_deletions (order.nodup_iff.mpr unique) followedOther
  refine ⟨?_, first.settle_perm (by rwa [List.map_id]) order⟩
  rw [forecast, forecastOther]
  exact order.map _

/-- Attempts to apply the same registrations go the same way and leave the same, whatever their
order. -/
theorem attempts_perm {other : ManagedRegistrations} {attempts others : List Attempt}
    {lastOther : Situation σ τ}
    (unique : ((attempts.map Attempt.registration).map Registration.name).Nodup)
    (order : (others.map Attempt.registration).Perm (attempts.map Attempt.registration))
    (followed : Follows (world.answer lists) first (attempts.flatMap Attempt.transcript) last)
    (followedOther :
      Follows (world.answer other) first (others.flatMap Attempt.transcript) lastOther) :
    others.Perm attempts ∧ lastOther = last := by
  obtain ⟨forecast, rfl⟩ := follows_attempts unique followed
  obtain ⟨forecastOther, rfl⟩ :=
    follows_attempts ((order.map Registration.name).nodup_iff.mpr unique) followedOther
  refine ⟨?_, first.settle_perm unique order⟩
  rw [forecast, forecastOther]
  exact order.map _

end KeyedWorld

end Registrar
