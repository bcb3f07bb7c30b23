import Registrar.Proofs.Transcript
import Registrar.World.Basic
/-!
# What calls do to a world

Only deletes and applies change the store of a world, each under one name. How the store treats its
names, the gate and the source stay as they are, so what the gate answers is known beforehand. What a
store replies to the calls of a transcript does not depend on who answers the others.
-/

set_option autoImplicit false

namespace Registrar

open Registrar.Cycle (Call calls)
open Readiness (ServiceKey)

namespace Gate

/-- What a gate finds when it reads the endpoints of a service. -/
def found (objects : List (String × Except Failure Endpoints)) (key : ServiceKey) :
    Except Failure (Option Endpoints) :=
  match objects.lookup key.describe with
  | none => .ok none
  | some (.ok held) => .ok (some held)
  | some (.error failure) => .error failure

/-- The answer of a gate, which depends on nothing but the registrations it is asked about. -/
def verdict (gate : Gate) (enabled : List Registration) : Except Failure Bool :=
  match gate with
  | .fixed ready => .ok ready
  | .failing failure => .error failure
  | .endpoints home objects =>
      Id.run ((Readiness.check home enabled).interpret fun key => pure (found objects key))

end Gate

namespace World

namespace Store

/-- What is left under a name that was to be deleted, given what was held there. -/
def afterDelete (store : Store) (name : String) : Option Registration → Option Registration
  | none => none
  | some existing =>
      if existing.metadata.deletionTimestamp.isSome ∨
          (store.deleteFailures.lookup name).isSome then some existing
      else if name ∈ store.finalizers then some (store.marked existing)
      else none

/-- What is left under a name that was to be applied. -/
def afterApply (store : Store) (desired : Registration) (held : Option Registration) :
    Option Registration :=
  if (store.applyFailures.lookup desired.name).isSome then held else some (store.stored desired)

/-- The store after a call. -/
def next (store : Store) : Call → Store
  | .delete name => (store.delete name).2
  | .apply desired => (store.apply desired).2
  | _ => store

/-- The store after the calls of a transcript. -/
def after (store : Store) (transcript : Transcript calls) : Store :=
  transcript.foldl (fun store exchange => store.next exchange.question) store

/-- A reply that is about registrations is the reply of the store. -/
def Replies (store : Store) : Exchange calls → Prop
  | ⟨.cached name, reply⟩ => store.get? name = reply
  | ⟨.delete name, reply⟩ => (store.delete name).1 = reply
  | ⟨.apply desired, reply⟩ => (store.apply desired).1 = reply
  | _ => True

/-- All replies of a transcript that are about registrations are those of the store, as it is at
each moment. Who gives the other replies does not matter. -/
def Serves (store : Store) : Transcript calls → Prop
  | [] => True
  | exchange :: rest => store.Replies exchange ∧ (store.next exchange.question).Serves rest

theorem after_append (store : Store) (first last : Transcript calls) :
    store.after (first ++ last) = (store.after first).after last :=
  List.foldl_append

theorem serves_append_iff (store : Store) (first last : Transcript calls) :
    store.Serves (first ++ last) ↔ store.Serves first ∧ (store.after first).Serves last := by
  induction first generalizing store with
  | nil => exact (iff_of_eq (true_and _)).symm
  | cons exchange rest ih =>
      exact (and_congr_right fun _ => ih (store.next exchange.question)).trans and_assoc.symm

/-- A handler that keeps a store beside other things, and leaves it to the store to answer what is
about registrations, is served by the store. -/
theorem serves_of_follows {τ : Type}
    {handler : (question : Call) → StateM (Store × τ) question.Reply}
    (tended : ∀ question state,
      state.1.Replies ⟨question, ((handler question).run state).1⟩ ∧
        ((handler question).run state).2.1 = state.1.next question)
    {transcript : Transcript calls} {first last : Store × τ}
    (followed : Interaction.Follows handler first transcript last) :
    first.1.Serves transcript ∧ last.1 = first.1.after transcript := by
  induction followed with
  | nil state => exact ⟨trivial, rfl⟩
  | @cons question reply first next last rest answered _ ih =>
      obtain ⟨replied, moved⟩ := tended question first
      rw [answered] at replied moved
      obtain ⟨served, ended⟩ := ih
      have moved : next.1 = first.1.next question := moved
      rw [moved] at served ended
      exact ⟨⟨replied, served⟩, ended⟩

/-- Calls that change nothing in a store leave it as it is, one after the other. -/
theorem after_eq_self (store : Store) {transcript : Transcript calls}
    (stable : ∀ exchange ∈ transcript, store.next exchange.question = store) :
    store.after transcript = store := by
  induction transcript with
  | nil => rfl
  | cons exchange rest ih =>
      obtain ⟨here, later⟩ := List.forall_mem_cons.mp stable
      exact (congrArg (after · rest) here).trans (ih later)

theorem after_flatMap_eq_self {β : Type} (store : Store) {exchanges : β → Transcript calls}
    {values : List β} (stable : ∀ value ∈ values, store.after (exchanges value) = store) :
    store.after (values.flatMap exchanges) = store := by
  induction values with
  | nil => rfl
  | cons value rest ih =>
      obtain ⟨here, later⟩ := List.forall_mem_cons.mp stable
      rw [List.flatMap_cons, after_append, here]
      exact ih later

/-- Both stores treat names alike, whatever they hold. -/
def Alike (first last : Store) : Prop :=
  last = { first with objects := last.objects }

theorem Alike.refl (store : Store) : store.Alike store :=
  rfl

theorem Alike.trans {first middle last : Store} (before : first.Alike middle)
    (after : middle.Alike last) : first.Alike last := by
  unfold Alike at before after ⊢
  rw [after, before]

theorem Alike.afterDelete_eq {first last : Store} (alike : first.Alike last) :
    last.afterDelete = first.afterDelete := by
  rw [alike]
  funext name held
  cases held <;> rfl

theorem Alike.afterApply_eq {first last : Store} (alike : first.Alike last) :
    last.afterApply = first.afterApply := by
  rw [alike]
  rfl

theorem alike_delete (store : Store) (name : String) : store.Alike (store.delete name).2 := by
  unfold delete
  split
  · rfl
  · split
    · split <;> rfl
    · rfl

theorem alike_apply (store : Store) (desired : Registration) :
    store.Alike (store.apply desired).2 := by
  unfold apply
  dsimp only
  split <;> rfl

theorem alike_next (store : Store) (question : Call) : store.Alike (store.next question) := by
  cases question with
  | delete name => exact store.alike_delete name
  | apply desired => exact store.alike_apply desired
  | _ => rfl

theorem alike_after (store : Store) (transcript : Transcript calls) :
    store.Alike (store.after transcript) := by
  induction transcript generalizing store with
  | nil => exact .refl store
  | cons exchange rest ih => exact (store.alike_next exchange.question).trans (ih _)

theorem get?_delete_of_ne (store : Store) {name other : String} (different : other ≠ name) :
    (store.delete name).2.get? other = store.get? other := by
  unfold delete
  split
  · rfl
  · split
    · split
      · simp [get?, Objects.lookup_insert, different]
      · rfl
    · simp [get?, Entries.lookup_erase, different]

theorem get?_delete_self (store : Store) {name : String} {existing : Registration}
    (held : store.get? name = some existing) (live : existing.isDeleting = false) :
    (store.delete name).2.get? name = store.afterDelete name (some existing) := by
  have found : store.objects.lookup name = some existing := held
  unfold delete afterDelete
  cases refused : store.deleteFailures.lookup name with
  | some failure => simp [held]
  | none =>
      by_cases finalized : name ∈ store.finalizers
      · simp [finalized, existing.isDeleting_eq_false_iff.mp live, found, get?,
          Objects.lookup_insert]
      · simp [finalized, existing.isDeleting_eq_false_iff.mp live, get?, Entries.lookup_erase]

/-- An apply changes what is held under its own name only. -/
theorem get?_apply (store : Store) (desired : Registration) (name : String) :
    (store.apply desired).2.get? name =
      if name = desired.name then store.afterApply desired (store.get? name)
      else store.get? name := by
  unfold apply afterApply
  dsimp only
  cases refused : store.applyFailures.lookup desired.name with
  | some failure => simp
  | none =>
      by_cases same : name = desired.name <;> simp [get?, Objects.lookup_insert, same]

end Store

/-! ## The gate -/

/-- The second world differs from the first at most by its log, its counts and a shutdown. -/
structure Undisturbed (first last : World) : Prop where
  store : last.store = first.store
  source : last.source = first.source
  gate : last.gate = first.gate

theorem Undisturbed.refl (world : World) : Undisturbed world world :=
  ⟨rfl, rfl, rfl⟩

theorem Undisturbed.trans {first middle last : World} (before : Undisturbed first middle)
    (after : Undisturbed middle last) : Undisturbed first last :=
  ⟨after.store.trans before.store, after.source.trans before.source, after.gate.trans before.gate⟩

theorem undisturbed_note (world : World) (entry : LogEntry) :
    Undisturbed world ((note entry).run world).2 :=
  ⟨rfl, rfl, rfl⟩

theorem run_readEndpoints (objects : List (String × Except Failure Endpoints)) (key : ServiceKey)
    (world : World) :
    (readEndpoints objects key).run world =
      (Gate.found objects key, ((note (.endpoints key)).run world).2) := by
  unfold readEndpoints Gate.found
  cases objects.lookup key.describe with
  | none => rfl
  | some reply => cases reply <;> rfl

/-- Reads of endpoints leave the world undisturbed and find what the gate holds. -/
theorem run_interpret_readEndpoints {α : Type} (objects : List (String × Except Failure Endpoints))
    (program : Interaction Readiness.reading α) (world : World) :
    ((program.interpret (readEndpoints objects)).run world).1 =
        Id.run (program.interpret fun key => pure (Gate.found objects key)) ∧
      Undisturbed world ((program.interpret (readEndpoints objects)).run world).2 := by
  induction program generalizing world with
  | done value => exact ⟨rfl, .refl world⟩
  | ask key resume ih =>
      have read := run_readEndpoints objects key world
      have step : ((Interaction.ask key resume).interpret (readEndpoints objects)).run world =
          ((resume ((readEndpoints objects key).run world).1).interpret (readEndpoints objects)).run
            ((readEndpoints objects key).run world).2 :=
        rfl
      obtain ⟨same, later⟩ := ih (Gate.found objects key) ((note (.endpoints key)).run world).2
      rw [step, read]
      exact ⟨same, (undisturbed_note world _).trans later⟩

theorem run_decideGate (enabled : List Registration) (world : World) :
    ((decideGate enabled).run world).1 = world.gate.verdict enabled ∧
      Undisturbed world ((decideGate enabled).run world).2 := by
  have step : (decideGate enabled).run world =
      match world.gate with
      | .fixed ready => (.ok ready, world)
      | .failing failure => (.error failure, world)
      | .endpoints home objects =>
          ((Readiness.check home enabled).interpret (readEndpoints objects)).run world := by
    unfold decideGate
    change (match world.gate with
      | .fixed ready => (return .ok ready : Run (Except Failure Bool))
      | .failing failure => return .error failure
      | .endpoints home objects =>
          (Readiness.check home enabled).interpret (readEndpoints objects)).run world = _
    cases world.gate <;> rfl
  rw [step]
  cases world.gate with
  | fixed ready => exact ⟨rfl, .refl world⟩
  | failing failure => exact ⟨rfl, .refl world⟩
  | endpoints home objects =>
      exact run_interpret_readEndpoints objects (Readiness.check home enabled) world

/-! ## Calls and transcripts -/

/-- What a call changes: the store if it is a delete or an apply, and else nothing that counts. -/
structure Affected (question : Call) (first last : World) : Prop where
  store : last.store = first.store.next question
  source : last.source = first.source
  gate : last.gate = first.gate

theorem affected_answer (question : Call) (world : World) :
    Affected question world ((answer question).run world).2 := by
  cases question with
  | check enabled =>
      let noted := ((note (.check (enabled.map Registration.name))).run world).2
      obtain ⟨_, undisturbed⟩ := run_decideGate enabled noted
      exact ⟨undisturbed.store, undisturbed.source, undisturbed.gate⟩
  | _ => exact ⟨rfl, rfl, rfl⟩

theorem reply_check (enabled : List Registration) (world : World) :
    ((answer (.check enabled)).run world).1 = world.gate.verdict enabled :=
  (run_decideGate enabled ((note (.check (enabled.map Registration.name))).run world).2).1

theorem replies_answer (question : Call) (world : World) :
    world.store.Replies ⟨question, ((answer question).run world).1⟩ := by
  cases question <;> first | rfl | trivial

/-- The first exchange of a transcript that a world followed is an answer of that world. -/
theorem follows_cons {question : Call} {reply : question.Reply} {rest : Transcript calls}
    {first last : World}
    (followed : Interaction.Follows answer first (⟨question, reply⟩ :: rest) last) :
    ∃ next, ((answer question).run first).1 = reply ∧ Affected question first next ∧
      Interaction.Follows answer next rest last := by
  cases followed with
  | cons answered later =>
      have affected := affected_answer question first
      rw [answered] at affected
      exact ⟨_, congrArg Prod.fst answered, affected, later⟩

theorem eq_of_follows_nil {first last : World}
    (followed : Interaction.Follows answer first ([] : Transcript calls) last) :
    last = first := by
  cases followed
  rfl

theorem gate_of_follows {transcript : Transcript calls} {first last : World}
    (followed : Interaction.Follows answer first transcript last) : last.gate = first.gate := by
  induction transcript generalizing first with
  | nil => rw [eq_of_follows_nil followed]
  | cons exchange rest ih =>
      obtain ⟨next, _, affected, later⟩ := follows_cons followed
      exact (ih later).trans affected.gate

/-- The replies of a world on registrations are those of its store, and its store is the only thing
that they change. -/
theorem serves_of_follows {transcript : Transcript calls} {first last : World}
    (followed : Interaction.Follows answer first transcript last) :
    first.store.Serves transcript ∧ last.store = first.store.after transcript := by
  induction transcript generalizing first with
  | nil =>
      rw [eq_of_follows_nil followed]
      exact ⟨trivial, rfl⟩
  | cons exchange rest ih =>
      obtain ⟨question, reply⟩ := exchange
      obtain ⟨next, rfl, affected, later⟩ := follows_cons followed
      obtain ⟨served, ended⟩ := ih later
      rw [affected.store] at served ended
      exact ⟨⟨replies_answer question first, served⟩, ended⟩

end World

end Registrar
