import Registrar.Proofs.Teardown
/-!
# Batches of deletions

A batch is gone through in its order, also if names repeat in it, and what an earlier deletion has
left decides what a later one of the same name does. The store may be any one that keeps its objects
by name: a delete of one name does not concern another one, and a delete that succeeds leaves no
object that is not marked. How deletes go, and what is left by one that fails, is up to the store.
-/

set_option autoImplicit false

namespace Registrar

open Interaction (Follows follows_append_iff follows_cons_iff follows_nil_iff)

/-- Where some value stands in a list that values make up one after the other, there is a value that
has put it there. -/
theorem exists_split_flatMap {α β : Type} {make : α → List β} {values : List α}
    {before after : List β} {item : β} (split : values.flatMap make = before ++ item :: after) :
    ∃ earlier value later first last, values = earlier ++ value :: later ∧
      make value = first ++ item :: last ∧ before = earlier.flatMap make ++ first ∧
      after = last ++ later.flatMap make := by
  induction values generalizing before with
  | nil => cases before <;> cases split
  | cons value rest ih =>
      rw [List.flatMap_cons] at split
      rcases List.append_eq_append_iff.mp split with ⟨gap, rfl, more⟩ | ⟨gap, made, more⟩
      · obtain ⟨earlier, other, later, first, last, rfl, made, rfl, rfl⟩ := ih more
        exact ⟨value :: earlier, other, later, first, last, rfl, made, by simp, rfl⟩
      · cases gap with
        -- nothing of the first value is left, so the item stands at the head of the rest
        | nil =>
            obtain ⟨earlier, other, later, first, last, rfl, inner, same, rfl⟩ := @ih [] more.symm
            refine ⟨value :: earlier, other, later, first, last, rfl, inner, ?_, rfl⟩
            rw [List.flatMap_cons, made, List.append_nil, List.append_assoc, ← same,
              List.append_nil]
        | cons head gap =>
            obtain ⟨rfl, rfl⟩ := List.cons_eq_cons.mp more
            exact ⟨[], value, rest, before, gap, rfl, made, rfl, rfl⟩

/-- What a delete that succeeds has left under its name is marked. -/
theorem World.Store.isDeleting_of_delete (store : World.Store) {name : String}
    {existing : Registration} (accepted : (store.delete name).1 = .ok ())
    (left : (store.delete name).2.get? name = some existing) : existing.isDeleting = true := by
  unfold delete at accepted left
  cases refused : store.deleteFailures.lookup name with
  | some failure => simp [refused] at accepted
  | none =>
      by_cases finalized : name ∈ store.finalizers
      · cases held : store.get? name with
        | none => simp [refused, finalized, held] at left
        | some object =>
            simp only [refused, finalized, held, List.contains_iff_mem, if_true] at left
            obtain rfl : store.marked object = existing := by
              simpa [get?, Objects.lookup_insert] using left
            rfl
      · simp [refused, finalized, get?, Entries.lookup_erase] at left

namespace Cycle

variable {σ : Type} {handler : (question : Call) → StateM σ question.Reply}
  {held : σ → String → Option Registration}

/-- There is an object that nobody has asked to go. -/
def Live (object : Option Registration) : Prop :=
  ∃ existing, object = some existing ∧ existing.metadata.deletionTimestamp = none

/-- A handler that deletes from a store which keeps its objects by name. -/
structure KeepsByName (handler : (question : Call) → StateM σ question.Reply)
    (held : σ → String → Option Registration) : Prop where
  cached : ∀ name state, ((handler (.cached name)).run state).1 = held state name
  looking : ∀ name state, held ((handler (.cached name)).run state).2 = held state
  counting : ∀ state, held ((handler (.observe .delete)).run state).2 = held state
  /-- A delete concerns its own name only. -/
  elsewhere : ∀ name other state, other ≠ name →
    held ((handler (.delete name)).run state).2 other = held state other
  /-- A delete that succeeds removes the object, or leaves it marked. -/
  gone : ∀ name state, ((handler (.delete name)).run state).1 = .ok () →
    ¬ Live (held ((handler (.delete name)).run state).2 name)

/-! ## One deletion -/

/-- What a deletion does in such a store. -/
structure Done (held : σ → String → Option Registration) (deletion : Deletion)
    (before after : σ) : Prop where
  asked_iff : deletion.request?.isSome ↔ Live (held before deletion.name)
  elsewhere : ∀ other, other ≠ deletion.name → held after other = held before other
  unasked : deletion.request? = none → held after = held before
  gone : deletion.request? = some (deletion.name, .ok ()) → ¬ Live (held after deletion.name)

theorem KeepsByName.looked (keeps : KeepsByName handler held) {name : String}
    {found : Option Registration} {rest : Transcript calls} {before after : σ}
    (followed : Follows handler before (⟨Call.cached name, found⟩ :: rest) after) :
    held before name = found ∧
      ∃ moment, held moment = held before ∧ Follows handler moment rest after := by
  obtain ⟨replied, further⟩ := follows_cons_iff.mp followed
  exact ⟨(keeps.cached name before).symm.trans replied, _, keeps.looking name before, further⟩

theorem KeepsByName.done (keeps : KeepsByName handler held) {deletion : Deletion}
    {before after : σ} (followed : Follows handler before deletion.transcript after) :
    Done held deletion before after := by
  cases deletion with
  | absent name =>
      obtain ⟨found, moment, same, ended⟩ := keeps.looked followed
      rw [← follows_nil_iff.mp ended] at same
      refine ⟨iff_of_false nofun ?_, fun other _ => by rw [same], fun _ => same, nofun⟩
      rintro ⟨existing, other, -⟩
      cases found.symm.trans other
  | underway name existing deleting =>
      obtain ⟨found, moment, same, ended⟩ := keeps.looked followed
      rw [← follows_nil_iff.mp ended] at same
      refine ⟨iff_of_false nofun ?_, fun other _ => by rw [same], fun _ => same, nofun⟩
      rintro ⟨other, held, live⟩
      cases found.symm.trans held
      cases ((existing.isDeleting_eq_false_iff).mpr live).symm.trans deleting
  | issued name existing live reply =>
      obtain ⟨found, moment, same, further⟩ := keeps.looked followed
      obtain ⟨-, further⟩ := follows_cons_iff.mp further
      obtain ⟨replied, ended⟩ := follows_cons_iff.mp further
      rw [follows_nil_iff.mp ended]
      refine ⟨iff_of_true rfl ⟨existing, found, (existing.isDeleting_eq_false_iff).mp live⟩,
        fun other different => ?_, nofun, ?_⟩
      · rw [keeps.elsewhere name other _ different, keeps.counting, same]
      · intro accepted
        exact keeps.gone name _ (replied.trans (congrArg Prod.snd (Option.some.inj accepted)))

/-- Deletions of other names do not concern an object. -/
theorem KeepsByName.held_eq (keeps : KeepsByName handler held) {name : String}
    {deletions : List Deletion} {before after : σ} (others : name ∉ deletions.map Deletion.name)
    (followed : Follows handler before (deletions.flatMap Deletion.transcript) after) :
    held after name = held before name := by
  induction deletions generalizing before with
  | nil => rw [follows_nil_iff.mp followed]
  | cons deletion rest ih =>
      obtain ⟨different, others⟩ := not_or.mp (others ∘ List.mem_cons.mpr)
      obtain ⟨middle, here, later⟩ := follows_append_iff.mp followed
      rw [ih others later, (keeps.done here).elsewhere name different]

/-- What is not live at some moment of a batch is not live in the rest of it. -/
theorem KeepsByName.not_live (keeps : KeepsByName handler held) {name : String}
    {deletions : List Deletion} {before after : σ} (done : ¬ Live (held before name))
    (followed : Follows handler before (deletions.flatMap Deletion.transcript) after) :
    ¬ Live (held after name) := by
  induction deletions generalizing before with
  | nil => rwa [follows_nil_iff.mp followed]
  | cons deletion rest ih =>
      obtain ⟨middle, here, later⟩ := follows_append_iff.mp followed
      refine ih ?_ later
      have step := keeps.done here
      by_cases same : name = deletion.name
      -- also a deletion of the name itself finds nothing to ask for, and so changes nothing
      · subst same
        have unasked : deletion.request? = none := by
          rwa [← step.asked_iff, Option.not_isSome_iff_eq_none] at done
        rwa [step.unasked unasked]
      · rwa [step.elsewhere name same]

/-! ## Places in a batch -/

/-- The next thing that is done is a delete of the name. -/
def AsksNext (name : String) (rest : Transcript calls) : Prop :=
  ∃ reply later, rest = ⟨.observe .delete, ()⟩ :: ⟨.delete name, reply⟩ :: later

namespace Deletion

variable {deletion : Deletion} {first last : Transcript calls} {name : String}

/-- A deletion looks up its name first, and then there is a delete or the next deletion. -/
theorem split_cached {found : Option Registration}
    (split : deletion.transcript = first ++ ⟨.cached name, found⟩ :: last)
    (later : List Deletion) :
    first = [] ∧ deletion.name = name ∧
      (AsksNext name (last ++ later.flatMap Deletion.transcript) ↔ deletion.request?.isSome) := by
  have unasked : ¬ AsksNext name (later.flatMap Deletion.transcript) := by
    rintro ⟨reply, rest, same⟩
    cases later with
    | nil => cases same
    | cons next later => cases next <;> cases same
  cases deletion with
  | absent other =>
      cases first with
      | nil =>
          cases split
          exact ⟨rfl, rfl, iff_of_false unasked Bool.false_ne_true⟩
      | cons head first => simp [transcript] at split
  | underway other existing deleting =>
      cases first with
      | nil =>
          cases split
          exact ⟨rfl, rfl, iff_of_false unasked Bool.false_ne_true⟩
      | cons head first => simp [transcript] at split
  | issued other existing live reply =>
      cases first with
      | nil =>
          cases split
          exact ⟨rfl, rfl, iff_of_true ⟨reply, _, rfl⟩ rfl⟩
      | cons head first => simp [transcript, List.cons_eq_append_iff] at split

/-- A delete is the end of its deletion. -/
theorem split_delete {reply : Except Failure Unit}
    (split : deletion.transcript = first ++ ⟨.delete name, reply⟩ :: last) :
    ∃ found, first = [⟨.cached name, found⟩, ⟨.observe .delete, ()⟩] ∧ last = [] ∧
      deletion.name = name ∧ deletion.request? = some (name, reply) := by
  cases deletion with
  | absent other => simp [transcript, List.cons_eq_append_iff] at split
  | underway other existing deleting => simp [transcript, List.cons_eq_append_iff] at split
  | issued other existing live replied =>
      obtain ⟨rfl, ⟨rfl, rfl⟩, rfl⟩ : first = [⟨.cached other, some existing⟩,
          ⟨.observe .delete, ()⟩] ∧ (name = other ∧ reply = replied) ∧ last = [] := by
        simpa [transcript, List.cons_eq_append_iff] using split
      exact ⟨some existing, rfl, rfl, rfl, rfl⟩

end Deletion

/-- Where an exchange stands in a batch: in one of the deletions, each of which begins in the state
that the one before it has left. -/
inductive Place (handler : (question : Call) → StateM σ question.Reply) (state final : σ)
    (exchange : Exchange calls) : Transcript calls → Transcript calls → Prop where
  | within {earlier later : List Deletion} {deletion : Deletion} {first last : Transcript calls}
      {moment next : σ} :
      deletion.transcript = first ++ exchange :: last →
      Follows handler state (earlier.flatMap Deletion.transcript) moment →
      Follows handler moment deletion.transcript next →
      Follows handler next (later.flatMap Deletion.transcript) final →
      Place handler state final exchange (earlier.flatMap Deletion.transcript ++ first)
        (last ++ later.flatMap Deletion.transcript)

theorem place_of_split {deletions : List Deletion} {state final : σ} {exchange : Exchange calls}
    {before after : Transcript calls}
    (followed : Follows handler state (deletions.flatMap Deletion.transcript) final)
    (split : deletions.flatMap Deletion.transcript = before ++ exchange :: after) :
    Place handler state final exchange before after := by
  obtain ⟨earlier, deletion, later, first, last, rfl, here, rfl, rfl⟩ := exists_split_flatMap split
  rw [List.flatMap_append, List.flatMap_cons] at followed
  obtain ⟨moment, past, rest⟩ := follows_append_iff.mp followed
  obtain ⟨next, step, further⟩ := follows_append_iff.mp rest
  exact .within here past step further

section Places

variable {state final : σ} {before after : Transcript calls} {name : String}

/-- Wherever a name is looked up, its delete is next if there is a live object at that moment. -/
theorem KeepsByName.looks (keeps : KeepsByName handler held) {found : Option Registration}
    (place : Place handler state final ⟨.cached name, found⟩ before after) :
    ∃ (earlier : List Deletion) (moment : σ), before = earlier.flatMap Deletion.transcript ∧
      Follows handler state before moment ∧ (AsksNext name after ↔ Live (held moment name)) := by
  cases place with
  | @within earlier later deletion first last moment next here past step further =>
      obtain ⟨rfl, rfl, asks⟩ := deletion.split_cached here later
      rw [List.append_nil]
      exact ⟨earlier, moment, rfl, past, asks.trans (keeps.done step).asked_iff⟩

/-- As long as a name is not looked up, nothing is changed about it. -/
theorem KeepsByName.waits (keeps : KeepsByName handler held) {found : Option Registration}
    (place : Place handler state final ⟨.cached name, found⟩ before after)
    (unseen : name ∉ lookups before) : AsksNext name after ↔ Live (held state name) := by
  obtain ⟨earlier, moment, rfl, past, asks⟩ := keeps.looks place
  rw [lookups_deletions] at unseen
  rw [asks, keeps.held_eq unseen past]

/-- A delete comes right after the look-up of its name, and further deletions come after it. -/
theorem KeepsByName.removes (keeps : KeepsByName handler held) {reply : Except Failure Unit}
    (place : Place handler state final ⟨.delete name, reply⟩ before after) :
    ∃ (earlier : Transcript calls) (found : Option Registration) (later : List Deletion) (next : σ),
      before = earlier ++ [⟨.cached name, found⟩, ⟨.observe .delete, ()⟩] ∧
      after = later.flatMap Deletion.transcript ∧
      Follows handler state (before ++ [⟨.delete name, reply⟩]) next ∧
      Follows handler next after final ∧ (reply = .ok () → ¬ Live (held next name)) := by
  cases place with
  | @within earlier later deletion first last moment next here past step further =>
      -- before the name of the deletion is replaced by the name that was asked to go
      have gone := (keeps.done step).gone
      obtain ⟨found, rfl, rfl, rfl, asked⟩ := deletion.split_delete here
      refine ⟨_, found, later, next, rfl, rfl, ?_, further, fun accepted => gone (accepted ▸ asked)⟩
      rw [List.append_assoc]
      exact follows_append_iff.mpr ⟨moment, past, here ▸ step⟩

/-- A name that is not live to begin with is not asked to go. -/
theorem KeepsByName.unasked (keeps : KeepsByName handler held) (done : ¬ Live (held state name))
    {reply : Except Failure Unit} :
    ¬ Place handler state final ⟨.delete name, reply⟩ before after := by
  intro place
  cases place with
  | @within earlier later deletion first last moment next here past step further =>
      obtain ⟨found, rfl, rfl, rfl, asked⟩ := deletion.split_delete here
      refine keeps.not_live done past ((keeps.done step).asked_iff.mp ?_)
      rw [asked]
      rfl

end Places

/-! ## Batches -/

/-- What a batch does in a store that keeps its objects by name. -/
structure Batched (handler : (question : Call) → StateM σ question.Reply)
    (held : σ → String → Option Registration) (registrations : List Registration) (state : σ)
    (transcript : Transcript calls) (result : Except Failure Unit) : Prop where
  /-- Each registration is looked up once, in order. -/
  looked : lookups transcript = registrations.map Registration.name
  /-- Its delete is next if there is a live object of its name at that moment, and only then. -/
  asked : ∀ before name found after, transcript = before ++ ⟨.cached name, found⟩ :: after →
    ∃ moment, Follows handler state before moment ∧
      (AsksNext name after ↔ Live (held moment name))
  only : ∀ before name reply after, transcript = before ++ ⟨.delete name, reply⟩ :: after →
    ∃ earlier found, before = earlier ++ [⟨.cached name, found⟩, ⟨.observe .delete, ()⟩]
  /-- A delete that succeeds is the last one of its name. -/
  once : ∀ before name after, transcript = before ++ ⟨.delete name, .ok ()⟩ :: after →
    ∀ reply, ⟨.delete name, reply⟩ ∉ after
  /-- A delete that fails is tried again when the name comes up next, if it has left a live
  object. -/
  again : ∀ before name failure between found after,
    transcript = before ++ ⟨.delete name, .error failure⟩ ::
      (between ++ ⟨.cached name, found⟩ :: after) →
    name ∉ lookups between →
    ∃ moment, Follows handler state (before ++ [⟨.delete name, .error failure⟩]) moment ∧
      (AsksNext name after ↔ Live (held moment name))
  ok_iff : result = .ok () ↔
    ∀ name failure, ⟨.delete name, .error failure⟩ ∈ transcript → failure.SaysGone
  /-- All other failures are told, in the order of the deletes. -/
  told : result = aggregate (leftovers transcript)

/-- For all batches and all stores that keep their objects by name: every registration is taken up
in its turn, and is deleted if there is something to delete at that moment. -/
theorem deletes_of_batch (keeps : KeepsByName handler held) (registrations : List Registration)
    (state : σ) :
    Batched handler held registrations state
      ((syncDisabled registrations).transcriptIn handler state)
      (((syncDisabled registrations).interpret handler).run state).1 := by
  have followed :
      Follows handler state ((syncDisabled registrations).transcriptIn handler state) _ :=
    Interaction.follows_transcriptIn (syncDisabled registrations) state
  obtain ⟨deletions, names, same, told⟩ := (syncDisabled_yields_iff registrations _ _).mp
    (Interaction.yields_transcriptIn (syncDisabled registrations) state)
  rw [same] at followed
  rw [same, told, ← leftovers_deletions]
  refine ⟨?_, ?_, ?_, ?_, ?_, ?_, rfl⟩
  · rw [lookups_deletions, names]
  · intro before name found after split
    obtain ⟨-, moment, -, past, asks⟩ := keeps.looks (place_of_split followed split)
    exact ⟨moment, past, asks⟩
  · intro before name reply after split
    obtain ⟨earlier, found, -, -, same, -⟩ := keeps.removes (place_of_split followed split)
    exact ⟨earlier, found, same⟩
  · intro before name after split reply member
    obtain ⟨-, -, later, next, -, rfl, -, rest, gone⟩ :=
      keeps.removes (place_of_split followed split)
    obtain ⟨first, last, split⟩ := List.append_of_mem member
    exact keeps.unasked (gone rfl) (place_of_split rest split)
  · intro before name failure between found after split unseen
    obtain ⟨-, -, later, next, -, same, past, rest, -⟩ :=
      keeps.removes (place_of_split followed split)
    rw [same] at rest
    exact ⟨next, past, keeps.waits (place_of_split rest same.symm) unseen⟩
  · rw [aggregate_eq_ok_iff, leftovers_eq_nil_iff]
    simp only [not_exists, not_and, Classical.not_not]

/-- A world keeps its objects by name, whatever it holds, refuses and finalizes. -/
theorem keepsByName_answer : KeepsByName World.answer fun world => world.store.get? := by
  refine ⟨fun _ _ => rfl, fun _ _ => rfl, fun _ => rfl, ?_, ?_⟩
  · intro name other world different
    exact world.store.get?_delete_of_ne different
  · intro name world accepted
    have accepted : (world.store.delete name).1 = .ok () := accepted
    rintro ⟨existing, left, live⟩
    cases ((existing.isDeleting_eq_false_iff).mpr live).symm.trans
      (world.store.isDeleting_of_delete accepted left)

/-- The disabled registrations of a world, each twice. One of them is refused, and the other one is
kept by a finalizer. -/
def sampleBatch : List Registration :=
  World.sampleLists.disabled ++ World.sampleLists.disabled

def sampleKeeping : World :=
  { World.sampleWorld with
    store := { World.sampleWorld.store with finalizers := ["v1beta1.metrics.example.io"] } }

/-- What was refused is tried again, and what is marked is not. -/
theorem deletes_of_batch_sample :
    let transcript := (syncDisabled sampleBatch).transcriptIn World.answer sampleKeeping
    let result := (sampleKeeping.run (syncDisabled sampleBatch)).1
    KeepsByName World.answer (fun world => world.store.get?) ∧
      Batched World.answer (fun world => world.store.get?) sampleBatch sampleKeeping transcript
        result ∧
      removals transcript =
        [("v1alpha1.metrics.example.io", .error (.io "connection reset")),
          ("v1beta1.metrics.example.io", .ok ()),
          ("v1alpha1.metrics.example.io", .error (.io "connection reset"))] ∧
      result = .error (.aggregate [.io "connection reset", .io "connection reset"]) :=
  ⟨keepsByName_answer, deletes_of_batch keepsByName_answer sampleBatch sampleKeeping, rfl, rfl⟩

end Cycle

end Registrar
