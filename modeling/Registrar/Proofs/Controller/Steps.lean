import Registrar.Controller.Machine
/-!
# The steps of a controller

What one input can do to a controller that has not stopped. Whatever has to do with cycles leaves the
phase and the cache as they are, and asks nothing in the name of the startup.
-/

set_option autoImplicit false

namespace Registrar

/-- After any change of the signal whoever waits for it is let go. -/
theorem Shutdown.releases_handle (signal : Shutdown) (event : Shutdown.Event) :
    (signal.handle event).releases = true := by
  cases event with
  | dropTrigger => simp [handle, dropTrigger, releases]
  | trigger =>
      cases dropped : signal.triggerDropped <;> simp [handle, trigger, releases, dropped]

namespace Controller

open Api (Request Response)
open Cluster (Talk)

variable {machine : Machine} {now : Nat}

/-! ## Steps -/

namespace Machine

theorem step_eq (going : machine.result? = none) (input : Input) :
    machine.step now input =
      match input with
      | .start => machine.work .startup now now (Cluster.startup machine.settings.identity)
      | .reply worker reply => machine.takeReply now worker reply
      | .event feed event => machine.takeEvent now feed event
      | .settle => machine.settle now
      | .signal event => (machine.takeSignal event, []) := by
  unfold result? at going
  unfold step
  cases phase : machine.phase with
  | stopped result =>
      rw [phase] at going
      cases going
  | _ => cases input <;> rfl

theorem step_of_stopped {result : Except Failure Unit} (stopped : machine.phase = .stopped result)
    (input : Input) : machine.step now input = (machine, []) := by
  unfold step
  rw [stopped]

theorem step_reply_of_absent (going : machine.result? = none) {worker : Worker}
    (absent : ∀ suspended ∈ machine.suspended, suspended.worker ≠ worker)
    (reply : Except String Response) : machine.step now (.reply worker reply) = (machine, []) := by
  have unfound : (machine.suspended.find? fun suspended => suspended.worker = worker) = none :=
    List.find?_eq_none.mpr fun suspended member => by simpa using absent suspended member
  rw [step_eq going]
  dsimp only [takeReply]
  rw [unfound]

theorem step_settle_of_unready (going : machine.result? = none) (unready : machine.serves = false) :
    machine.step now .settle = (machine, []) := by
  rw [step_eq going]
  dsimp only [settle]
  rw [unready]
  rfl

/-! ## The watch that fills the cache -/

section Cache

variable (event : CacheEvent Registration)

theorem step_event_of_open (waiting : machine.phase = .waiting)
    (unended : (machine.registrations.handle event).syncOutcome = none) :
    machine.step now (.event .cache event) =
      ({ machine with registrations := machine.registrations.handle event }, []) := by
  rw [step_eq (by rw [result?, waiting])]
  dsimp only [takeEvent, checkCache]
  rw [waiting, unended]

theorem step_event_of_complete (waiting : machine.phase = .waiting)
    (ended : (machine.registrations.handle event).syncOutcome = some (.ok ())) :
    machine.step now (.event .cache event) =
      ({ machine with
          registrations := machine.registrations.handle event
          phase := .serving },
        servedFeeds.map .follow) := by
  rw [step_eq (by rw [result?, waiting])]
  dsimp only [takeEvent, checkCache]
  rw [waiting, ended]

theorem step_event_of_serving (serving : machine.phase = .serving) :
    machine.step now (.event .cache event) =
      ({ machine with registrations := machine.registrations.handle event }, []) := by
  rw [step_eq (by rw [result?, serving])]
  dsimp only [takeEvent, checkCache]
  rw [serving]

end Cache

/-! ## The signal -/

section Signal

variable (event : Shutdown.Event)

theorem step_signal_of_waiting (waiting : machine.phase = .waiting) :
    machine.step now (.signal event) =
      ({ machine with
          shutdown := machine.shutdown.handle event
          phase := .stopped (.ok ()) }, []) := by
  rw [step_eq (by rw [result?, waiting])]
  dsimp only [takeSignal]
  rw [waiting]
  exact congrArg (·, []) (if_pos (machine.shutdown.releases_handle event))

/-- At any other time it merely is remembered. -/
theorem step_signal_of_busy (going : machine.result? = none) (busy : machine.phase ≠ .waiting) :
    machine.step now (.signal event) =
      ({ machine with shutdown := machine.shutdown.handle event }, []) := by
  rw [step_eq going]
  dsimp only [takeSignal]
  cases phase : machine.phase with
  | waiting => exact absurd phase busy
  | _ => rfl

end Signal

/-! ## Cycles -/

/-- A controller goes on, possibly with cycles, and with nothing else. -/
structure Continues (machine next : Machine) (done : List Effect) : Prop where
  phase : next.phase = machine.phase
  registrations : next.registrations = machine.registrations
  suspended : ∀ suspended ∈ next.suspended, suspended ∈ machine.suspended ∨
    suspended.worker ≠ .startup
  asked : ∀ request, .exchange .startup request ∉ done

theorem Continues.of_kept {machine next : Machine} (phase : next.phase = machine.phase)
    (registrations : next.registrations = machine.registrations)
    (suspended : next.suspended = machine.suspended) : Continues machine next [] :=
  ⟨phase, registrations, fun _ member => .inl (suspended ▸ member), fun _ => List.not_mem_nil⟩

theorem Continues.trans {first middle last : Machine} {done later : List Effect}
    (before : Continues first middle done) (after : Continues middle last later) :
    Continues first last (done ++ later) := by
  refine ⟨after.phase.trans before.phase, after.registrations.trans before.registrations, ?_, ?_⟩
  · intro suspended member
    rcases after.suspended suspended member with earlier | other
    · exact before.suspended suspended earlier
    · exact .inr other
  · intro request member
    rcases List.mem_append.mp member with early | late
    · exact before.asked request early
    · exact after.asked request late

/-- Up to its next request a program does nothing but count. -/
theorem proceed_fst (machine : Machine) (program : Talk (Except Failure Unit)) :
    ∃ metrics, (machine.proceed program).1 = { machine with metrics := metrics } := by
  induction program generalizing machine with
  | done result => exact ⟨machine.metrics, rfl⟩
  | ask question resume ih =>
      cases question with
      | exchange request => exact ⟨machine.metrics, rfl⟩
      | cached name => exact ih _ machine
      | manifest => exact ih _ machine
      | isShuttingDown => exact ih _ machine
      | now => exact ih _ machine
      | observe observation => exact ih () (machine.observe observation)

theorem continues_afterCycle (machine : Machine) (key : ObjectKey) (since now : Nat)
    (result : Except Failure Unit) :
    Continues machine (machine.afterCycle key since now result) [] := by
  unfold afterCycle
  dsimp only
  cases (Controller.afterCycle machine.settings.resync machine.streak result).1 <;>
    cases result <;> exact Continues.of_kept rfl rfl rfl

theorem continues_work (machine : Machine) (key : ObjectKey) (since now : Nat)
    (program : Talk (Except Failure Unit)) :
    Continues machine (machine.work (.cycle key) since now program).1
      (machine.work (.cycle key) since now program).2 := by
  obtain ⟨metrics, counted⟩ := machine.proceed_fst program
  have here : Continues machine (machine.proceed program).1 [] := by
    rw [counted]
    exact Continues.of_kept rfl rfl rfl
  unfold work
  dsimp only
  cases (machine.proceed program).2 with
  | finished result => exact here.trans (continues_afterCycle _ key since now result)
  | exchanging request resume =>
      refine here.trans ⟨rfl, rfl, fun suspended member => ?_, fun other member => ?_⟩
      · rcases List.mem_append.mp member with earlier | new
        · exact .inl earlier
        · obtain rfl := List.mem_singleton.mp new
          exact .inr (by simp)
      · cases List.mem_singleton.mp member

theorem continues_begin (machine : Machine) (now : Nat) (key : ObjectKey) :
    Continues machine (machine.begin now key).1 (machine.begin now key).2 := by
  have here : Continues machine { machine with queue := machine.queue.erase key } [] :=
    Continues.of_kept rfl rfl rfl
  unfold begin
  dsimp only
  split
  · exact here.trans (continues_work _ key now now _)
  · exact here

theorem continues_beginAll (machine : Machine) (now : Nat) (keys : List ObjectKey) :
    Continues machine (machine.beginAll now keys).1 (machine.beginAll now keys).2 := by
  induction keys generalizing machine with
  | nil => exact Continues.of_kept rfl rfl rfl
  | cons key rest ih => exact (continues_begin machine now key).trans (ih _)

theorem continues_settle (machine : Machine) (now : Nat) :
    Continues machine (machine.settle now).1 (machine.settle now).2 := by
  unfold settle
  split
  · exact continues_beginAll machine now _
  · exact Continues.of_kept rfl rfl rfl

theorem continues_takeReply (machine : Machine) (now : Nat) (key : ObjectKey)
    (reply : Except String Response) :
    Continues machine (machine.takeReply now (.cycle key) reply).1
      (machine.takeReply now (.cycle key) reply).2 := by
  unfold takeReply
  split
  · exact Continues.of_kept rfl rfl rfl
  · next suspended _ =>
      have here : Continues machine { machine with
          suspended := machine.suspended.filter fun other => other.worker ≠ .cycle key } [] :=
        ⟨rfl, rfl, fun _ member => .inl (List.mem_filter.mp member).1, fun _ => List.not_mem_nil⟩
      exact here.trans (continues_work _ key suspended.since now _)

/-- An event of a feed that does not fill the cache asks for cycles at most. -/
theorem continues_takeEvent (machine : Machine) (now : Nat) {feed : Feed} (other : feed ≠ .cache)
    (event : CacheEvent feed.Object) :
    Continues machine (machine.takeEvent now feed event).1
      (machine.takeEvent now feed event).2 := by
  have kept (operators : Cache Operator) (queue : Queue) :
      Continues machine { machine with operators := operators, queue := queue } [] :=
    Continues.of_kept rfl rfl rfl
  cases feed with
  | cache => exact absurd rfl other
  | operators => cases event <;> exact kept _ _
  | registrations => cases event <;> exact kept _ _
  | services => cases event <;> exact kept _ _
  | endpoints => cases event <;> exact kept _ _

/-! ## Where requests come from -/

theorem not_asked_of_startup (machine : Machine) (since now : Nat)
    (program : Talk (Except Failure Unit)) (key : ObjectKey) (request : Api.Request) :
    .exchange (.cycle key) request ∉ (machine.work .startup since now program).2 := by
  unfold work
  dsimp only
  cases (machine.proceed program).2 with
  | exchanging => simp
  | finished result =>
      cases result with
      | error failure => exact List.not_mem_nil
      | ok value =>
          dsimp only [afterStartup]
          split
          · exact List.not_mem_nil
          · simp

/-- A cycle asks for something only while the controller serves, or if it has asked before. -/
theorem cycle_of_asked {input : Input} {key : ObjectKey} {request : Api.Request}
    (asked : .exchange (.cycle key) request ∈ (machine.step now input).2) :
    machine.phase = .serving ∨ ∃ suspended ∈ machine.suspended, suspended.worker ≠ .startup := by
  cases going : machine.result? with
  | some result =>
      cases phase : machine.phase with
      | stopped result =>
          rw [step_of_stopped phase] at asked
          cases asked
      | _ =>
          rw [result?, phase] at going
          cases going
  | none =>
      rw [step_eq going] at asked
      -- A request comes from a program that is run, so it matters which inputs run which programs.
      cases input with
      | start => exact absurd asked (not_asked_of_startup _ _ _ _ _ _)
      | signal event => cases asked
      | event feed event =>
          cases feed with
          | cache =>
              dsimp only [takeEvent, checkCache] at asked
              split at asked <;> simp at asked
          | _ => cases asked
      | settle =>
          dsimp only [settle] at asked
          split at asked
          · next ready =>
              unfold serves at ready
              split at ready
              · next serving => exact .inl serving
              · cases ready
          · cases asked
      | reply worker reply =>
          dsimp only [takeReply] at asked
          split at asked
          · cases asked
          · next suspended found =>
              cases worker with
              | startup => exact absurd asked (not_asked_of_startup _ _ _ _ _ _)
              | cycle other =>
                  have named : suspended.worker = .cycle other := by
                    simpa using List.find?_some found
                  exact .inr ⟨suspended, List.mem_of_find?_eq_some found, by simp [named]⟩

end Machine

end Controller

end Registrar
