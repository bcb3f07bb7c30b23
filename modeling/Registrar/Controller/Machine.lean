import Registrar.Cluster.Startup
import Registrar.Controller.Feed
import Registrar.Controller.Policy
import Registrar.Controller.Queue
import Registrar.Shutdown
/-!
# The controller

The controller starts up, waits until the cache of registrations is complete, and from then on runs
cycles: one for each change of an object that it follows, and one when the queue says so. Cycles for
one key never overlap. A change during a cycle asks for another one right after it.

The controller is a machine: each input changes its state and has effects, which are requests to be
sent and feeds to be opened. A shutdown ends the controller only while it waits for the cache; later
it merely changes what the cycles report.

Inputs are taken in one at a time, each of them before the next one is looked at. Where the cache
becomes complete and the shutdown is asked for between two looks of the controller, the order of the
inputs stands for the one that it happens to see first.
-/

set_option autoImplicit false

namespace Registrar.Controller

open Api (Response)
open Cluster (Identity Talk)

structure Settings where
  identity : Identity
  resync : UInt64
deriving DecidableEq, Repr, Inhabited

namespace Settings

def operatorKey (settings : Settings) : ObjectKey :=
  ⟨settings.identity.operatorName, none⟩

end Settings

inductive Worker where
  | startup
  | cycle (key : ObjectKey)
deriving DecidableEq, Repr, Inhabited

inductive Phase where
  | starting
  /-- The cache of registrations is not complete yet. -/
  | waiting
  | serving
  | stopped (result : Except Failure Unit)

structure Suspended where
  worker : Worker
  resume : Except String Response → Talk (Except Failure Unit)
  /-- When the program was started, in milliseconds. -/
  since : Nat

inductive Effect where
  | exchange (worker : Worker) (request : Api.Request)
  | follow (feed : Feed)

inductive Input where
  | start
  | reply (worker : Worker) (reply : Except String Response)
  | event (feed : Feed) (event : CacheEvent feed.Object)
  /-- Everything that was to happen by now has happened. -/
  | settle
  | signal (event : Shutdown.Event)

structure Machine where
  settings : Settings
  phase : Phase := .starting
  registrations : Cache Registration := {}
  operators : Cache Operator := {}
  queue : Queue := []
  suspended : List Suspended := []
  streak : UInt32 := 0
  shutdown : Shutdown := {}
  metrics : Metrics := {}
  manifest : FileContent := none
  clock : String := ""

namespace Machine

def label : String :=
  "apiservice"

def observe (machine : Machine) (observation : Observation) : Machine :=
  { machine with metrics := machine.metrics.observe observation }

inductive Progress where
  | finished (result : Except Failure Unit)
  | exchanging (request : Api.Request)
      (resume : Except String Response → Talk (Except Failure Unit))

def proceed (machine : Machine) : Talk (Except Failure Unit) → Machine × Progress
  | .done result => (machine, .finished result)
  | .ask (.exchange request) resume => (machine, .exchanging request resume)
  | .ask (.cached name) resume => machine.proceed (resume (machine.registrations.get? name))
  | .ask .manifest resume => machine.proceed (resume machine.manifest)
  | .ask .isShuttingDown resume => machine.proceed (resume machine.shutdown.isShuttingDown)
  | .ask .now resume => machine.proceed (resume machine.clock)
  | .ask (.observe observation) resume => (machine.observe observation).proceed (resume ())

/-- The controller has started up. It stops here if a shutdown has been asked for already. -/
def afterStartup (machine : Machine) (result : Except Failure Unit) : Machine × List Effect :=
  match result with
  | .error failure => ({ machine with phase := .stopped (.error failure) }, [])
  | .ok () =>
      if machine.shutdown.releases then ({ machine with phase := .stopped (.ok ()) }, [])
      else ({ machine with phase := .waiting }, [.follow .cache])

def reschedule (machine : Machine) (key : ObjectKey) (now : Nat) : Action → Machine
  | .awaitChange => machine
  | .requeue seconds =>
      { machine with queue := machine.queue.schedule key (now + 1000 * seconds.toNat) }

def observeResult (machine : Machine) : Except Failure Unit → Machine
  | .ok () => machine
  | .error failure => machine.observe (.cycleFailure label failure.kind)

def afterCycle (machine : Machine) (key : ObjectKey) (since now : Nat)
    (result : Except Failure Unit) : Machine :=
  let seconds := Decimal.Binary64.ofRatio false ⟨now - since, 1000⟩
  let counted := (machine.observe (.cycleDuration label seconds)).observeResult result
  let (action, streak) := Controller.afterCycle machine.settings.resync machine.streak result
  { counted with streak := streak }.reschedule key now action

def work (machine : Machine) (worker : Worker) (since now : Nat)
    (program : Talk (Except Failure Unit)) : Machine × List Effect :=
  let (machine, progress) := machine.proceed program
  match progress with
  | .exchanging request resume =>
      ({ machine with suspended := machine.suspended ++ [⟨worker, resume, since⟩] },
        [.exchange worker request])
  | .finished result =>
      match worker with
      | .startup => machine.afterStartup result
      | .cycle key => (machine.afterCycle key since now result, [])

def busy (machine : Machine) : List ObjectKey :=
  machine.suspended.filterMap fun suspended =>
    match suspended.worker with
    | .startup => none
    | .cycle key => some key

/-- Start the cycle of a key, unless its operator resource does not exist. -/
def begin (machine : Machine) (now : Nat) (key : ObjectKey) : Machine × List Effect :=
  let taken := { machine with queue := machine.queue.erase key }
  if machine.operators.contains key then
    taken.work (.cycle key) now now (Cluster.cycle machine.settings.identity)
  else (taken, [])

def beginAll (machine : Machine) (now : Nat) : List ObjectKey → Machine × List Effect
  | [] => (machine, [])
  | key :: rest =>
      let (machine, effects) := machine.begin now key
      let (machine, later) := beginAll machine now rest
      (machine, effects ++ later)

/-- Whether cycles may start: the cache is complete and the operator resources are known. -/
def serves (machine : Machine) : Bool :=
  match machine.phase with
  | .serving => machine.operators.ready
  | _ => false

def settle (machine : Machine) (now : Nat) : Machine × List Effect :=
  if machine.serves then machine.beginAll now (machine.queue.dueKeys machine.busy now)
  else (machine, [])

def nextTime? (machine : Machine) : Option Nat :=
  if machine.serves then machine.queue.nextTime? machine.busy else none

def trigger (machine : Machine) (now : Nat) (key : ObjectKey) : Machine :=
  { machine with queue := machine.queue.schedule key now }

def touched {α : Type} : CacheEvent α → Option α
  | .listed object => some object
  | .applied object => some object
  | .deleted object => some object
  | .listStarted => none
  | .listEnded => none

def servedFeeds : List Feed :=
  [.operators, .registrations, .services, .endpoints]

def checkCache (machine : Machine) : Machine × List Effect :=
  match machine.phase, machine.registrations.syncOutcome with
  | .waiting, some (.ok ()) =>
      ({ machine with phase := .serving }, servedFeeds.map .follow)
  | .waiting, some (.error failure) => ({ machine with phase := .stopped (.error failure) }, [])
  | _, _ => (machine, [])

/-- Take in an event of the operator resources. One that is gone asks for no cycle. -/
def takeOperator (machine : Machine) (now : Nat) (event : CacheEvent Operator) : Machine :=
  let machine := { machine with operators := machine.operators.handle event }
  match event with
  | .listed operator => machine.trigger now (keyOf operator)
  | .applied operator => machine.trigger now (keyOf operator)
  | _ => machine

/-- Take in an event of another feed: whatever it is about, it asks for a cycle of the operator. -/
def takeOther {α : Type} (machine : Machine) (now : Nat) (event : CacheEvent α) : Machine :=
  match touched event with
  | some _ => machine.trigger now machine.settings.operatorKey
  | none => machine

def takeEvent (machine : Machine) (now : Nat) :
    (feed : Feed) → CacheEvent feed.Object → Machine × List Effect
  | .cache, event =>
      checkCache { machine with registrations := machine.registrations.handle event }
  | .operators, event => (machine.takeOperator now event, [])
  | .registrations, event => (machine.takeOther now event, [])
  | .services, event => (machine.takeOther now event, [])
  | .endpoints, event => (machine.takeOther now event, [])

def takeReply (machine : Machine) (now : Nat) (worker : Worker) (reply : Except String Response) :
    Machine × List Effect :=
  match machine.suspended.find? fun suspended => suspended.worker = worker with
  | none => (machine, [])
  | some suspended =>
      { machine with
        suspended := machine.suspended.filter fun other => other.worker ≠ worker }.work
          worker suspended.since now (suspended.resume reply)

/-- The shutdown signal has changed. The wait for the cache ends with it if it releases waiters. -/
def takeSignal (machine : Machine) (event : Shutdown.Event) : Machine :=
  let machine := { machine with shutdown := machine.shutdown.handle event }
  match machine.phase with
  | .waiting =>
      if machine.shutdown.releases then { machine with phase := .stopped (.ok ()) } else machine
  | _ => machine

def result? (machine : Machine) : Option (Except Failure Unit) :=
  match machine.phase with
  | .stopped result => some result
  | _ => none

/-- Take in one input. A controller that has stopped takes in nothing. -/
def step (machine : Machine) (now : Nat) (input : Input) : Machine × List Effect :=
  match machine.phase, input with
  | .stopped _, _ => (machine, [])
  | _, .start => machine.work .startup now now (Cluster.startup machine.settings.identity)
  | _, .reply worker reply => machine.takeReply now worker reply
  | _, .event feed event => machine.takeEvent now feed event
  | _, .settle => machine.settle now
  | _, .signal event => (machine.takeSignal event, [])

end Machine

end Registrar.Controller
