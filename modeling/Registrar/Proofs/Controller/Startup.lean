import Registrar.Proofs.Controller.History
import Registrar.Proofs.Controller.Steps
/-!
# A controller on its way to service

Before its first cycle a controller goes through stages: it makes its requests, then it waits until
the watch that fills the cache has told all of its first listing. It stops on the way if a request
fails, or if the signal lets it go while it waits. The stage of a controller can be read off its
history, and what a cycle finds in the cache is what the watch has told last.
-/

set_option autoImplicit false

namespace Registrar.Controller

open Api (Request Response)
open Cluster (Asks Talk exchanges)

variable {machine : Machine} {now : Nat} {input : Input} {account : Account}

/-! ## Stages -/

/-- A controller as it is before it is started. -/
structure Fresh (machine : Machine) : Prop where
  phase : machine.phase = .starting
  registrations : machine.registrations = {}
  suspended : machine.suspended = []

variable {fresh : Machine}

/-- The startup has not ended, and the watch that fills the cache is not open. -/
structure Preparing (fresh : Machine) (account : Account) (machine : Machine) : Prop where
  phase : machine.phase = .starting
  metrics : machine.metrics = fresh.metrics
  registrations : machine.registrations = {}
  alert : account.signalled = true → machine.shutdown.releases = true
  unheard : account.heard = []

structure Unstarted (fresh : Machine) (account : Account) (machine : Machine) : Prop extends
    Preparing fresh account machine where
  settings : machine.settings = fresh.settings
  suspended : machine.suspended = []
  unstarted : account.started = false
  effects : account.effects = []
  startup : account.startup = {}

/-- The startup goes on with a program: all its requests were answered so far. -/
structure Poised (fresh : Machine) (account : Account) (machine : Machine)
    (rest : Talk (Except Failure Unit)) : Prop extends Preparing fresh account machine where
  suspended : machine.suspended = []
  started : account.started = true
  effects : account.effects = account.requested
  awaited : account.startup.awaited = none
  leads : (Cluster.startup fresh.settings.identity).Leads (exchanges account.startup.answered) rest

/-- The startup waits for the answer to a request. -/
structure Starting (fresh : Machine) (account : Account) (machine : Machine) : Prop extends
    Preparing fresh account machine where
  started : account.started = true
  effects : account.effects = account.requested
  suspended : ∃ request resume since, machine.suspended = [⟨.startup, resume, since⟩] ∧
    account.startup.awaited = some request ∧
    (Cluster.startup fresh.settings.identity).Leads (exchanges account.startup.answered)
      (.ask (.exchange request) resume)

/-- All requests of the startup were answered, and it ended with a result. -/
structure Ended (fresh : Machine) (account : Account) (result : Except Failure Unit) : Prop where
  awaited : account.startup.awaited = none
  leads : (Cluster.startup fresh.settings.identity).Leads (exchanges account.startup.answered)
    (.done result)

structure Waiting (fresh : Machine) (account : Account) (machine : Machine) : Prop where
  phase : machine.phase = .waiting
  metrics : machine.metrics = fresh.metrics
  registrations : machine.registrations = Cache.replay account.heard
  suspended : machine.suspended = []
  unsignalled : account.signalled = false
  started : account.started = true
  unlisted : .listEnded ∉ account.heard
  ended : Ended fresh account (.ok ())
  effects : account.effects = account.requested ++ [.follow .cache]

structure Serving (fresh : Machine) (account : Account) (machine : Machine) : Prop where
  phase : machine.phase = .serving
  registrations : machine.registrations = Cache.replay account.heard
  suspended : ∀ suspended ∈ machine.suspended, suspended.worker ≠ .startup
  started : account.started = true
  listed : .listEnded ∈ account.heard
  ended : Ended fresh account (.ok ())
  effects : ∃ later, account.effects = account.requested ++ later

structure Stopped (fresh : Machine) (account : Account) (machine : Machine) : Prop where
  metrics : machine.metrics = fresh.metrics
  result : ∃ result, machine.phase = .stopped result ∧ Ended fresh account result ∧
    (account.effects = account.requested ∨
      result = .ok () ∧ account.effects = account.requested ++ [.follow .cache])

inductive Stage (fresh : Machine) (account : Account) (machine : Machine) : Prop where
  | unstarted : Unstarted fresh account machine → Stage fresh account machine
  | starting : Starting fresh account machine → Stage fresh account machine
  | waiting : Waiting fresh account machine → Stage fresh account machine
  | serving : Serving fresh account machine → Stage fresh account machine
  | stopped : Stopped fresh account machine → Stage fresh account machine

/-! ## From stage to stage -/

theorem Poised.stage {rest : Talk (Except Failure Unit)}
    (poised : Poised fresh account machine rest) (since now : Nat) :
    Stage fresh (account.add (machine.work .startup since now rest).2)
      (machine.work .startup since now rest).1 := by
  obtain ⟨later, -, asks⟩ :=
    (Cluster.asks_startup fresh.settings.identity).of_leads poised.leads
  have leads := poised.leads
  -- What is left of the startup cannot ask anything else, so there are only these cases.
  cases asks with
  | @exchange request resume _ _ =>
      refine .starting ⟨⟨poised.phase, poised.metrics, poised.registrations, poised.alert,
        poised.unheard⟩, poised.started, ?_, request, resume, since,
        congrArg (· ++ _) poised.suspended, rfl, leads⟩
      refine Eq.trans ?_ (account.requested_add_request request poised.awaited).symm
      exact congrArg (· ++ _) poised.effects
  | done result =>
      have ended : Ended fresh account result := ⟨poised.awaited, leads⟩
      cases result with
      | error failure =>
          have stopped : machine.work .startup since now (.done (.error failure)) =
            ({ machine with phase := .stopped (.error failure) }, []) := rfl
          rw [stopped, account.add_nil]
          exact .stopped ⟨poised.metrics, _, rfl, ended, .inl poised.effects⟩
      | ok value =>
          cases releases : machine.shutdown.releases with
          | true =>
              have stopped : machine.work .startup since now (.done (.ok value)) =
                  ({ machine with phase := .stopped (.ok value) }, []) := if_pos releases
              rw [stopped, account.add_nil]
              exact .stopped ⟨poised.metrics, _, rfl, ended, .inl poised.effects⟩
          | false =>
              have waiting : machine.work .startup since now (.done (.ok value)) =
                  ({ machine with phase := .waiting }, [.follow .cache]) :=
                if_neg (by rw [releases]; decide)
              have unsignalled : account.signalled = false := by
                cases signalled : account.signalled with
                | false => rfl
                | true => exact (releases.symm.trans (poised.alert signalled)).symm
              rw [waiting]
              exact .waiting ⟨rfl, poised.metrics,
                poised.registrations.trans (congrArg Cache.replay poised.unheard.symm),
                poised.suspended, unsignalled, poised.started,
                poised.unheard ▸ List.not_mem_nil, ⟨poised.awaited, leads⟩,
                congrArg (· ++ _) poised.effects⟩

namespace Preparing

variable (preparing : Preparing fresh account machine)

include preparing

theorem going : machine.result? = none := by
  rw [Machine.result?, preparing.phase]

theorem step_settle : machine.step now .settle = (machine, []) :=
  Machine.step_settle_of_unready preparing.going (by rw [Machine.serves, preparing.phase])

theorem step_signal (event : Shutdown.Event) :
    machine.step now (.signal event) =
      ({ machine with shutdown := machine.shutdown.handle event }, []) :=
  Machine.step_signal_of_busy event preparing.going (by simp [preparing.phase])

theorem signal (event : Shutdown.Event) :
    Preparing fresh (account.hear now (.signal event))
      { machine with shutdown := machine.shutdown.handle event } :=
  ⟨preparing.phase, preparing.metrics, preparing.registrations,
    fun _ => machine.shutdown.releases_handle event, preparing.unheard⟩

end Preparing

theorem not_followed {requests : List Request}
    (effects : account.effects = requests.map (.exchange .startup)) (feed : Feed) :
    account.followed feed = false := by
  rw [Account.followed, effects, List.any_map]
  exact List.any_eq_false.mpr fun request _ => Bool.false_ne_true

theorem Unstarted.turn (unstarted : Unstarted fresh account machine)
    (admitted : account.admits input = true) :
    Stage fresh ((account.hear now input).add (machine.step now input).2)
      (machine.step now input).1 := by
  cases input with
  | start =>
      have poised : Poised fresh (account.hear now .start) machine
          (Cluster.startup fresh.settings.identity) :=
        { phase := unstarted.phase
          metrics := unstarted.metrics
          registrations := unstarted.registrations
          alert := fun signalled => unstarted.alert (by
            simpa [Account.hear, Input.isSignal] using signalled)
          unheard := unstarted.unheard
          suspended := unstarted.suspended
          started := by simp [Account.hear, Input.isStart]
          effects := by
            simp [Account.hear, Account.requested, Conversation.note, Conversation.requests,
              unstarted.effects, unstarted.startup]
          awaited := by simp [Account.hear, Conversation.note, unstarted.startup]
          leads := by
            simp only [Account.hear, Conversation.note, unstarted.startup]
            exact .stay _ }
      rw [Machine.step_eq unstarted.going]
      dsimp only
      rw [unstarted.settings]
      exact poised.stage now now
  | reply worker reply =>
      rw [Machine.step_reply_of_absent unstarted.going (by simp [unstarted.suspended]),
        Account.add_nil, account.hear_of_harmless (by cases worker <;> simp [unstarted.startup])]
      exact .unstarted unstarted
  | event feed event =>
      exact absurd admitted (by simp [Account.admits, Account.followed, unstarted.effects])
  | settle =>
      rw [unstarted.step_settle, Account.add_nil, account.hear_of_harmless trivial]
      exact .unstarted unstarted
  | signal event =>
      rw [unstarted.step_signal, Account.add_nil]
      exact .unstarted
        { unstarted.signal event with
          settings := unstarted.settings
          suspended := unstarted.suspended
          unstarted := by simp [Account.hear, Input.isStart, unstarted.unstarted]
          effects := unstarted.effects
          startup := by simp [Account.hear, Conversation.note, unstarted.startup] }

theorem Starting.turn (starting : Starting fresh account machine)
    (admitted : account.admits input = true) :
    Stage fresh ((account.hear now input).add (machine.step now input).2)
      (machine.step now input).1 := by
  obtain ⟨request, resume, since, suspended, awaited, leads⟩ := starting.suspended
  -- Only an answer to the startup moves it on; nothing else is suspended, and no feed is open.
  cases input with
  | start => exact absurd admitted (by simp [Account.admits, starting.started])
  | reply worker reply =>
      cases worker with
      | startup =>
          have poised : Poised fresh (account.hear now (.reply .startup reply))
              { machine with suspended := [] } (resume reply) :=
            { phase := starting.phase
              metrics := starting.metrics
              registrations := starting.registrations
              alert := fun signalled => starting.alert (by
            simpa [Account.hear, Input.isSignal] using signalled)
              unheard := starting.unheard
              suspended := rfl
              started := by simp [Account.hear, Input.isStart, starting.started]
              effects := by
                refine starting.effects.trans ?_
                simp [Account.hear, Account.requested, Conversation.note, Conversation.requests,
                  awaited]
              awaited := by simp [Account.hear, Conversation.note, awaited]
              leads := by
                simp only [Account.hear, Conversation.note, awaited, if_true]
                rw [exchanges, List.map_append]
                exact leads.answered reply }
          have took : machine.takeReply now .startup reply =
              Machine.work { machine with suspended := [] } .startup since now (resume reply) := by
            simp [Machine.takeReply, suspended]
          rw [Machine.step_eq starting.going]
          dsimp only
          rw [took]
          exact poised.stage since now
      | cycle key =>
          rw [Machine.step_reply_of_absent starting.going (by simp [suspended]), Account.add_nil,
            account.hear_of_harmless trivial]
          exact .starting starting
  | event feed event =>
      exact absurd admitted (by simp [Account.admits, not_followed starting.effects])
  | settle =>
      rw [starting.step_settle, Account.add_nil, account.hear_of_harmless trivial]
      exact .starting starting
  | signal event =>
      rw [starting.step_signal, Account.add_nil]
      exact .starting
        { starting.signal event with
          started := by simp [Account.hear, Input.isStart, starting.started]
          effects := starting.effects
          suspended := ⟨request, resume, since, suspended, awaited, leads⟩ }

theorem Waiting.turn (waiting : Waiting fresh account machine)
    (admitted : account.admits input = true) :
    Stage fresh ((account.hear now input).add (machine.step now input).2)
      (machine.step now input).1 := by
  have going : machine.result? = none := by rw [Machine.result?, waiting.phase]
  cases input with
  | start => exact absurd admitted (by simp [Account.admits, waiting.started])
  | reply worker reply =>
      rw [Machine.step_reply_of_absent going (by simp [waiting.suspended]), Account.add_nil,
        account.hear_of_harmless (by cases worker <;> simp [waiting.ended.awaited])]
      exact .waiting waiting
  | settle =>
      rw [Machine.step_settle_of_unready going (by rw [Machine.serves, waiting.phase]),
        Account.add_nil, account.hear_of_harmless trivial]
      exact .waiting waiting
  | signal event =>
      rw [Machine.step_signal_of_waiting event waiting.phase, Account.add_nil]
      exact .stopped ⟨waiting.metrics, .ok (), rfl, ⟨waiting.ended.awaited, waiting.ended.leads⟩,
        .inr ⟨rfl, waiting.effects⟩⟩
  | event feed event =>
      cases feed with
      | cache =>
          have replayed : machine.registrations.handle event =
              Cache.replay (account.hear now (.event .cache event)).heard :=
            congrArg (Cache.handle · event) waiting.registrations
          have outcome := Cache.syncOutcome_replay (account.hear now (.event .cache event)).heard
          rw [← replayed] at outcome
          -- The cache is ready at once with the event that ends the first listing.
          cases ready : (machine.registrations.handle event).ready with
          | false =>
              rw [ready] at outcome
              rw [Machine.step_event_of_open event waiting.phase outcome, Account.add_nil]
              refine .waiting
                { phase := waiting.phase
                  metrics := waiting.metrics
                  registrations := replayed
                  suspended := waiting.suspended
                  unsignalled := by simp [Account.hear, Input.isSignal, waiting.unsignalled]
                  started := by simp [Account.hear, Input.isStart, waiting.started]
                  unlisted := fun listed => ?_
                  ended := ⟨waiting.ended.awaited, waiting.ended.leads⟩
                  effects := waiting.effects }
              rw [replayed, (Cache.ready_replay_iff _).mpr listed] at ready
              cases ready
          | true =>
              rw [ready] at outcome
              rw [Machine.step_event_of_complete event waiting.phase outcome]
              exact .serving
                { phase := rfl
                  registrations := replayed
                  suspended := by simp [waiting.suspended]
                  started := by simp [Account.hear, Account.add, waiting.started]
                  listed := (Cache.ready_replay_iff _).mp (replayed ▸ ready)
                  ended := ⟨waiting.ended.awaited, waiting.ended.leads⟩
                  effects := ⟨_, (congrArg (· ++ _) waiting.effects).trans
                    (List.append_assoc _ _ _)⟩ }
      | _ =>
          exact absurd admitted (by
            simp [Account.admits, Account.followed, waiting.effects, Account.requested])

/-- Once it serves, a controller that goes on keeps serving. -/
theorem Serving.continue {next : Machine} {done : List Effect}
    (serving : Serving fresh account machine) (continues : Machine.Continues machine next done) :
    Serving fresh (account.add done) next := by
  have startup := account.startup_add_of_elsewhere continues.asked
  obtain ⟨later, effects⟩ := serving.effects
  refine
    { phase := continues.phase.trans serving.phase
      registrations := continues.registrations.trans serving.registrations
      suspended := fun suspended member => ?_
      started := serving.started
      listed := serving.listed
      ended := ⟨startup ▸ serving.ended.awaited, startup ▸ serving.ended.leads⟩
      effects := ⟨later ++ done, ?_⟩ }
  · rcases continues.suspended suspended member with earlier | other
    · exact serving.suspended suspended earlier
    · exact other
  · rw [Account.requested, startup, ← List.append_assoc]
    exact congrArg (· ++ done) effects

theorem Serving.turn (serving : Serving fresh account machine)
    (admitted : account.admits input = true) :
    Stage fresh ((account.hear now input).add (machine.step now input).2)
      (machine.step now input).1 := by
  have going : machine.result? = none := by rw [Machine.result?, serving.phase]
  cases input with
  | start => exact absurd admitted (by simp [Account.admits, serving.started])
  | settle =>
      rw [account.hear_of_harmless trivial, Machine.step_eq going]
      exact .serving (serving.continue (machine.continues_settle now))
  | reply worker reply =>
      cases worker with
      | startup =>
          rw [Machine.step_reply_of_absent going serving.suspended, Account.add_nil,
            account.hear_of_harmless serving.ended.awaited]
          exact .serving serving
      | cycle key =>
          rw [account.hear_of_harmless trivial, Machine.step_eq going]
          exact .serving (serving.continue (machine.continues_takeReply now key reply))
  | event feed event =>
      by_cases cache : feed = .cache
      · subst cache
        rw [Machine.step_event_of_serving event serving.phase, Account.add_nil]
        exact .serving
          { phase := serving.phase
            registrations := congrArg (Cache.handle · event) serving.registrations
            suspended := serving.suspended
            started := by simp [Account.hear, Input.isStart, serving.started]
            listed := .tail _ serving.listed
            ended := ⟨serving.ended.awaited, serving.ended.leads⟩
            effects := serving.effects }
      · rw [account.hear_of_harmless cache, Machine.step_eq going]
        exact .serving (serving.continue (machine.continues_takeEvent now cache event))
  | signal event =>
      rw [Machine.step_signal_of_busy event going (by simp [serving.phase]), Account.add_nil]
      exact .serving
        { phase := serving.phase
          registrations := serving.registrations
          suspended := serving.suspended
          started := by simp [Account.hear, Input.isStart, serving.started]
          listed := serving.listed
          ended := ⟨serving.ended.awaited, serving.ended.leads⟩
          effects := serving.effects }

theorem Stopped.turn (stopped : Stopped fresh account machine) :
    Stage fresh ((account.hear now input).add (machine.step now input).2)
      (machine.step now input).1 := by
  obtain ⟨result, phase, ended, effects⟩ := stopped.result
  have startup := account.startup_hear_of_unawaited ended.awaited now input
  rw [Machine.step_of_stopped phase, Account.add_nil]
  refine .stopped ⟨stopped.metrics, result, phase,
    ⟨startup ▸ ended.awaited, startup ▸ ended.leads⟩, ?_⟩
  rw [Account.requested, startup]
  exact effects

theorem Stage.turn (stage : Stage fresh account machine) (admitted : account.admits input = true) :
    Stage fresh ((account.hear now input).add (machine.step now input).2)
      (machine.step now input).1 := by
  cases stage with
  | unstarted unstarted => exact unstarted.turn admitted
  | starting starting => exact starting.turn admitted
  | waiting waiting => exact waiting.turn admitted
  | serving serving => exact serving.turn admitted
  | stopped stopped => exact stopped.turn

theorem Stage.after {past : List Moment} {machine : Machine}
    (stage : Stage fresh (Account.ofHistory past) machine) {inputs : List (Nat × Input)}
    (admitted : machine.admitsAll past inputs = true) :
    Stage fresh (Account.ofHistory (past ++ machine.history inputs)) (machine.after inputs) := by
  -- The history so far is the past of the inputs that are left.
  induction inputs generalizing past machine with
  | nil =>
      rw [Machine.history, List.append_nil]
      exact stage
  | cons entry rest ih =>
      obtain ⟨now, input⟩ := entry
      obtain ⟨here, later⟩ := Bool.and_eq_true_iff.mp admitted
      rw [Machine.history, ← List.append_assoc]
      refine ih ?_ later
      rw [Account.ofHistory_turn]
      exact stage.turn here

theorem Fresh.stage (initial : Fresh fresh) : Stage fresh (.ofHistory []) fresh :=
  .unstarted
    { phase := initial.phase
      metrics := rfl
      registrations := initial.registrations
      alert := fun signalled => by cases signalled
      unheard := rfl
      settings := rfl
      suspended := initial.suspended
      unstarted := rfl
      effects := rfl
      startup := rfl }

end Registrar.Controller
