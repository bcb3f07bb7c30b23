import Registrar.Proofs.Controller.Startup
/-!
# No cycle on a partial cache

A cycle that ran on a partial cache would take every registration that is missing there for deleted
already, and leave it in place. So a controller runs no cycle before the watch that fills the cache
has told all of its first listing. What comes before that happens in order: the operator resources
are listed, the one that instructs the controller is ensured, and the watch is opened.
-/

set_option autoImplicit false

namespace Registrar.Controller

open Api (Request Response)
open Cluster (Talk exchanges listing ensuring unknownKind)
open CacheEvent (lastWord? openListing? Removes)

variable {fresh machine : Machine} {account : Account}

/-! ## What a stage tells -/

namespace Stage

variable (stage : Stage fresh account machine)

include stage

theorem leads : ∃ rest, (Cluster.startup fresh.settings.identity).Leads
    (exchanges account.startup.answered) rest := by
  cases stage with
  | unstarted unstarted =>
      rw [unstarted.startup]
      exact ⟨_, .stay _⟩
  | starting starting =>
      obtain ⟨request, resume, since, -, -, leads⟩ := starting.suspended
      exact ⟨_, leads⟩
  | waiting waiting => exact ⟨_, waiting.ended.leads⟩
  | serving serving => exact ⟨_, serving.ended.leads⟩
  | stopped stopped =>
      obtain ⟨result, -, ended, -⟩ := stopped.result
      exact ⟨_, ended.leads⟩

theorem requests_prefix :
    account.startup.requests <+: listing :: ensuring fresh.settings.identity.operatorName := by
  have answered {rest : Talk (Except Failure Unit)}
      (leads : (Cluster.startup fresh.settings.identity).Leads
        (exchanges account.startup.answered) rest) :=
    (Cluster.asks_startup fresh.settings.identity).of_leads leads
  have unawaited (awaited : account.startup.awaited = none) : account.startup.requests <+:
      listing :: ensuring fresh.settings.identity.operatorName := by
    obtain ⟨rest, leads⟩ := stage.leads
    obtain ⟨later, split, -⟩ := answered leads
    rw [Conversation.requests, awaited, split]
    exact ⟨later, by simp⟩
  cases stage with
  | unstarted unstarted => exact unawaited (by rw [unstarted.startup])
  | waiting waiting => exact unawaited waiting.ended.awaited
  | serving serving => exact unawaited serving.ended.awaited
  | stopped stopped =>
      obtain ⟨result, -, ended, -⟩ := stopped.result
      exact unawaited ended.awaited
  | starting starting =>
      obtain ⟨request, resume, since, -, awaited, leads⟩ := starting.suspended
      obtain ⟨later, split, asks⟩ := answered leads
      cases asks with
      | @exchange _ _ last _ =>
          rw [Conversation.requests, awaited, split]
          exact ⟨last, by simp⟩

theorem of_failed {failure : Failure}
    (failed : (Cluster.startup fresh.settings.identity).Yields
      (exchanges account.startup.answered) (.error failure)) :
    machine.result? = some (.error failure) ∧ account.startup.awaited = none ∧
      account.effects = account.requested := by
  cases stage with
  | unstarted unstarted =>
      rw [unstarted.startup, Cluster.startup_eq] at failed
      cases failed
  | starting starting =>
      obtain ⟨request, resume, since, -, -, leads⟩ := starting.suspended
      cases (leads.yields_iff _).mp failed
  | waiting waiting => cases (waiting.ended.leads.yields_iff _).mp failed
  | serving serving => cases (serving.ended.leads.yields_iff _).mp failed
  | stopped stopped =>
      obtain ⟨result, phase, ended, effects⟩ := stopped.result
      cases (ended.leads.yields_iff _).mp failed
      rcases effects with effects | ⟨different, -⟩
      · exact ⟨by rw [Machine.result?, phase], ended.awaited, effects⟩
      · cases different

/-- A startup that has succeeded is followed by the end if the signal comes before the cache is
complete. -/
theorem of_released
    (succeeded : (Cluster.startup fresh.settings.identity).Yields
      (exchanges account.startup.answered) (.ok ()))
    (signalled : account.signalled = true) (unlisted : .listEnded ∉ account.heard) :
    machine.result? = some (.ok ()) := by
  cases stage with
  | unstarted unstarted =>
      rw [unstarted.startup, Cluster.startup_eq] at succeeded
      cases succeeded
  | starting starting =>
      obtain ⟨request, resume, since, -, -, leads⟩ := starting.suspended
      cases (leads.yields_iff _).mp succeeded
  | waiting waiting => cases waiting.unsignalled.symm.trans signalled
  | serving serving => exact absurd serving.listed unlisted
  | stopped stopped =>
      obtain ⟨result, phase, ended, -⟩ := stopped.result
      cases (ended.leads.yields_iff _).mp succeeded
      rw [Machine.result?, phase]

theorem effects_eq : ∃ later, account.effects = account.requested ++ later ∧
    (later ≠ [] → (Cluster.startup fresh.settings.identity).Yields
      (exchanges account.startup.answered) (.ok ())) := by
  cases stage with
  | unstarted unstarted =>
      refine ⟨[], ?_, fun different => absurd rfl different⟩
      rw [Account.requested, unstarted.effects, unstarted.startup]
      rfl
  | starting starting =>
      exact ⟨[], by rw [List.append_nil, starting.effects], fun different => absurd rfl different⟩
  | waiting waiting =>
      exact ⟨_, waiting.effects, fun _ => (waiting.ended.leads.yields_iff _).mpr rfl⟩
  | serving serving =>
      obtain ⟨later, effects⟩ := serving.effects
      exact ⟨later, effects, fun _ => (serving.ended.leads.yields_iff _).mpr rfl⟩
  | stopped stopped =>
      obtain ⟨result, -, ended, effects⟩ := stopped.result
      rcases effects with effects | ⟨rfl, effects⟩
      · exact ⟨[], by rw [List.append_nil, effects], fun different => absurd rfl different⟩
      · exact ⟨_, effects, fun _ => (ended.leads.yields_iff _).mpr rfl⟩

/-- Before the cache is complete no cycle has asked for anything, and none has ended. That is also so
if the controller has stopped. -/
theorem no_cycle (early : .listEnded ∉ account.heard ∨ machine.result? ≠ none) :
    (∀ key request, .exchange (.cycle key) request ∉ account.effects) ∧
      machine.metrics = fresh.metrics := by
  have requested (key : ObjectKey) (request : Request) :
      .exchange (.cycle key) request ∉ account.requested := by
    simp [Account.requested]
  cases stage with
  | unstarted unstarted => exact ⟨by simp [unstarted.effects], unstarted.metrics⟩
  | starting starting =>
      rw [starting.effects]
      exact ⟨requested, starting.metrics⟩
  | waiting waiting =>
      rw [waiting.effects]
      exact ⟨by simp [requested], waiting.metrics⟩
  | serving serving =>
      rcases early with unlisted | ended
      · exact absurd serving.listed unlisted
      · exact absurd (by rw [Machine.result?, serving.phase]) ended
  | stopped stopped =>
      obtain ⟨result, -, -, effects⟩ := stopped.result
      rcases effects with effects | ⟨-, effects⟩
      · rw [effects]
        exact ⟨requested, stopped.metrics⟩
      · rw [effects]
        exact ⟨by simp [requested], stopped.metrics⟩

theorem serving_of_asked {now : Nat} {input : Input} {key : ObjectKey} {request : Request}
    (asked : .exchange (.cycle key) request ∈ (machine.step now input).2) :
    Serving fresh account machine := by
  have origin := Machine.cycle_of_asked asked
  cases stage with
  | unstarted unstarted => simp [unstarted.phase, unstarted.suspended] at origin
  | starting starting =>
      obtain ⟨_, resume, since, suspended, -, -⟩ := starting.suspended
      simp [starting.phase, suspended] at origin
  | waiting waiting => simp [waiting.phase, waiting.suspended] at origin
  | serving serving => exact serving
  | stopped stopped =>
      obtain ⟨result, phase, -, -⟩ := stopped.result
      rw [Machine.step_of_stopped phase] at asked
      cases asked

end Stage

/-! ## The whole run -/

/-- A cache that has heard these events, the latest first, is complete: it shows the last word on
every registration, and so all those of a listing that were not removed after it. -/
structure Complete (events : List (CacheEvent Registration)) (cache : Cache Registration) :
    Prop where
  listed : .listEnded ∈ events
  shown : ∀ name, cache.get? name = lastWord? ⟨name, none⟩ events
  kept : ∀ later listing, events = later ++ .listEnded :: listing →
    ∀ name, (openListing? ⟨name, none⟩ listing).isSome = true →
    (∀ after event between, later = after ++ event :: between →
      ¬ Removes ⟨name, none⟩ (between ++ .listEnded :: listing) event) →
    ∃ registration, cache.get? name = some registration ∧ keyOf registration = ⟨name, none⟩

theorem complete_of_listed {events : List (CacheEvent Registration)}
    (listed : .listEnded ∈ events) : Complete events (Cache.replay events) := by
  have shown (name : String) :
      (Cache.replay events).get? name = lastWord? ⟨name, none⟩ events :=
    Cache.lookup_visible_replay events ⟨name, none⟩
  refine ⟨listed, shown, fun later listing split name member unremoved => ?_⟩
  obtain ⟨registration, word⟩ :=
    Option.isSome_iff_exists.mp (CacheEvent.isSome_lastWord member unremoved)
  rw [shown, split]
  exact ⟨registration, word, CacheEvent.keyOf_lastWord word⟩

/-- What a controller has done and become with a history. -/
structure Orderly (fresh : Machine) (history : List Moment) (machine : Machine) : Prop where
  requests : (conversation .startup history).requests <+:
    listing :: ensuring fresh.settings.identity.operatorName
  /-- Whatever is not asked by the startup comes after it, and only if it has succeeded. -/
  first : ∃ later, effects history =
      (conversation .startup history).requests.map (.exchange .startup) ++ later ∧
    (later ≠ [] → (Cluster.startup fresh.settings.identity).Yields
      (exchanges (conversation .startup history).answered) (.ok ()))
  /-- No cycle has asked for anything or ended before the first listing is complete, nor before the
  controller has stopped. -/
  patient : .listEnded ∉ heard history ∨ machine.result? ≠ none →
    (∀ key request, .exchange (.cycle key) request ∉ effects history) ∧
      machine.metrics = fresh.metrics
  /-- Whenever a cycle asks for something, the cache is complete. -/
  complete : ∀ now input key request,
    .exchange (.cycle key) request ∈ (machine.step now input).2 →
    Complete (heard history) machine.registrations
  unlisted : ∀ request reply rest cause,
    (conversation .startup history).answered = (request, reply) :: rest →
    Cluster.outcome (Api.Listing.read Operator.ofJson) reply = .error cause →
    machine.result? = some (.error unknownKind) ∧
      effects history = [.exchange .startup listing]
  unensured : ∀ request reply rest found failure,
    (conversation .startup history).answered = (request, reply) :: rest →
    Cluster.outcome (Api.Listing.read Operator.ofJson) reply = .ok found →
    (Cluster.ensureOperator fresh.settings.identity.operatorName).Yields (exchanges rest)
      (.error failure) →
    machine.result? = some (.error failure) ∧
      effects history = (conversation .startup history).requests.map (.exchange .startup)
  released : signalled history = true → .listEnded ∉ heard history →
    (Cluster.startup fresh.settings.identity).Yields
      (exchanges (conversation .startup history).answered) (.ok ()) →
    machine.result? = some (.ok ())
  settled : machine.result? ≠ none → ∀ now input, machine.step now input = (machine, [])

theorem Stage.orderly {history : List Moment}
    (stage : Stage fresh (.ofHistory history) machine) : Orderly fresh history machine := by
  refine
    { requests := stage.requests_prefix
      first := stage.effects_eq
      patient := stage.no_cycle
      complete := ?_
      unlisted := ?_
      unensured := ?_
      released := fun signalled unlisted succeeded => stage.of_released succeeded signalled unlisted
      settled := ?_ }
  · intro now input key request asked
    have serving := stage.serving_of_asked asked
    rw [serving.registrations]
    exact complete_of_listed serving.listed
  · intro request reply rest cause answered failed
    obtain ⟨remainder, leads⟩ := stage.leads
    have here : (Account.ofHistory history).startup.answered = (request, reply) :: rest := answered
    rw [here] at leads
    obtain ⟨rfl, rfl, rfl⟩ := Cluster.unlisted_of_leads leads failed
    obtain ⟨result, awaited, effects⟩ := stage.of_failed (by
      rw [here]
      exact (leads.yields_iff _).mpr rfl)
    refine ⟨result, effects.trans ?_⟩
    rw [Account.requested, Conversation.requests, here, awaited]
    rfl
  · intro request reply rest found failure answered read failed
    obtain ⟨remainder, leads⟩ := stage.leads
    have here : (Account.ofHistory history).startup.answered = (request, reply) :: rest := answered
    rw [here] at leads
    obtain ⟨rfl, ensured⟩ := Cluster.listed_of_leads leads read
    obtain rfl := (ensured.yields_iff _).mp failed
    obtain ⟨result, -, effects⟩ := stage.of_failed (by
      rw [here]
      exact (leads.yields_iff _).mpr rfl)
    exact ⟨result, effects⟩
  · intro ended now input
    cases phase : machine.phase with
    | stopped result => exact Machine.step_of_stopped phase input
    | _ => exact absurd (by rw [Machine.result?, phase]) ended

/-- Whatever a fresh controller is told, in whatever order, as long as it is started once only and no
feed tells anything before it is opened: it starts up in order, runs no cycle before its cache is
complete, and stops on the way if a request fails or the signal lets it go. -/
theorem no_cycle_on_partial_cache (initial : Fresh fresh) (inputs : List (Nat × Input))
    (admitted : fresh.admitsAll [] inputs = true) :
    Orderly fresh (fresh.history inputs) (fresh.after inputs) :=
  (initial.stage.after admitted).orderly

def sampleFresh : Machine where
  settings := { identity := ⟨"cluster", "default"⟩, resync := 10 }

def sampleListed (version : String) : Registration where
  metadata := { name := some (version ++ ".metrics.example.io") }
  spec := default
  status := none

/-- The operator resource exists. Of two registrations that are listed one is deleted, before the
operator resources are listed as well. -/
def sampleInputs : List (Nat × Input) :=
  [(0, .start),
    (1, .reply .startup (.ok ⟨200, .json (.object [("items", .array [])])⟩)),
    (2, .reply .startup (.ok ⟨200, .json (Operator.named "cluster").toJson⟩)),
    (3, .event .cache .listStarted),
    (3, .event .cache (.listed (sampleListed "v1"))),
    (3, .event .cache (.listed (sampleListed "v2"))),
    (3, .event .cache .listEnded),
    (4, .event .cache (.deleted (sampleListed "v2"))),
    (5, .event .operators .listStarted),
    (5, .event .operators (.listed (Operator.named "cluster"))),
    (5, .event .operators .listEnded)]

/-- Now the first cycle begins with a request for the instruction, and finds the other registration in
the cache. -/
theorem no_cycle_on_partial_cache_sample :
    let reached := sampleFresh.after sampleInputs
    Orderly sampleFresh (sampleFresh.history sampleInputs) reached ∧
      (conversation (.cycle ⟨"cluster", none⟩) (reached.turn 5 .settle)).awaited =
        some ⟨.get, ⟨Api.Collection.operators ++ "/cluster", []⟩, none, none⟩ ∧
      reached.registrations.get? "v1.metrics.example.io" = some (sampleListed "v1") ∧
      reached.registrations.get? "v2.metrics.example.io" = none := by
  intro reached
  have initial : Fresh sampleFresh := ⟨rfl, rfl, rfl⟩
  have admitted : sampleFresh.admitsAll [] sampleInputs = true := by decide +kernel
  exact ⟨no_cycle_on_partial_cache initial sampleInputs admitted, by decide +kernel,
    by decide +kernel, by decide +kernel⟩

end Registrar.Controller
