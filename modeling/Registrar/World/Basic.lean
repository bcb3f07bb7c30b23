import Registrar.Cycle.Basic
import Registrar.Readiness
import Registrar.Shutdown
import Registrar.Source
import Registrar.World.Store
/-!
# A world in memory

A world answers all calls of a cycle without a cluster: it has a store, a source of lists, a gate,
an operator resource and a prober, each of which can be told to fail. It logs the calls in order and
counts what it is told to count. A shutdown can be set to start at a certain kind of call.
-/

set_option autoImplicit false

namespace Registrar

open Registrar.Cycle (Call)
open Readiness (ServiceKey)

inductive LogEntry where
  | readMode
  | listManaged
  | get (name : String)
  | delete (name : String)
  | check (names : List String)
  | endpoints (key : ServiceKey)
  | apply (desired : Registration)
  | probe (groupVersions : List GroupVersion)
  | write (conditions : List Condition)
  | warning (reason message : String)
deriving DecidableEq, Repr

def LogEntry.label : LogEntry → String
  | readMode => "read_mode"
  | listManaged => "list_managed"
  | get _ => "get"
  | delete _ => "delete"
  | check _ => "check"
  | endpoints _ => "endpoints"
  | apply _ => "apply"
  | probe _ => "probe"
  | write _ => "write"
  | warning _ _ => "warning"

/-- How a world decides whether the enabled registrations may be applied. -/
inductive Gate where
  | fixed (ready : Bool)
  | failing (failure : Failure)
  /-- By the endpoints of the services, under namespace and name; a key that is not listed has
  none. -/
  | endpoints (home : String) (objects : List (String × Except Failure Endpoints))

structure World where
  store : World.Store := {}
  source : Source := .file none
  gate : Gate := .fixed true
  mode : String := "Managed"
  readFailure : Option Failure := none
  writeFailure : Option Failure := none
  /-- The messages of the prober, by group and version. -/
  missing : List (String × String) := []
  shutdownOn : Option String := none
  shutdown : Shutdown := {}
  now : String := ""
  metrics : Metrics := {}
  log : List LogEntry := []

namespace World

abbrev Run :=
  StateM World

/-- Log a call, which may trigger a shutdown before it is carried out. -/
def note (entry : LogEntry) : Run Unit :=
  modify fun world =>
    { world with
      log := world.log ++ [entry]
      shutdown :=
        if world.shutdownOn = some entry.label then world.shutdown.trigger else world.shutdown }

def readEndpoints (objects : List (String × Except Failure Endpoints)) (key : ServiceKey) :
    Run (Except Failure (Option Endpoints)) := do
  note (.endpoints key)
  match objects.lookup key.describe with
  | none => return .ok none
  | some (.ok endpoints) => return .ok (some endpoints)
  | some (.error failure) => return .error failure

def decideGate (enabled : List Registration) : Run (Except Failure Bool) := do
  match (← get).gate with
  | .fixed ready => return .ok ready
  | .failing failure => return .error failure
  | .endpoints home objects =>
      (Readiness.check home enabled).interpret 
        (readEndpoints objects)

def succeedUnless {α : Type} (failure : Option Failure) (value : α) : Except Failure α :=
  match failure with
  | some failure => .error failure
  | none => .ok value

def answer : (call : Call) → Run call.Reply
  | .readMode => do
      note .readMode
      let world ← get
      return succeedUnless world.readFailure (ManagementState.ofName world.mode)
  | .listManaged => do
      note .listManaged
      return (← get).source.list
  | .cached name => do
      note (.get name)
      return (← get).store.get? name
  | .delete name => do
      note (.delete name)
      modifyGet fun world =>
        let (reply, store) := world.store.delete name
        (reply, { world with store := store })
  | .check enabled => do
      note (.check (enabled.map Registration.name))
      decideGate enabled
  | .apply desired => do
      note (.apply desired)
      modifyGet fun world =>
        let (reply, store) := world.store.apply desired
        (reply, { world with store := store })
  | .probe groupVersions => do
      note (.probe groupVersions)
      let world ← get
      return groupVersions.filterMap fun groupVersion =>
        world.missing.lookup groupVersion.describe
  | .writeConditions conditions => do
      note (.write conditions)
      return succeedUnless (← get).writeFailure ()
  | .warn reason message => note (.warning reason message)
  | .isShuttingDown => return (← get).shutdown.isShuttingDown
  | .now => return (← get).now
  | .observe observation =>
      modify fun world => { world with metrics := world.metrics.observe observation }

def run {α : Type} (world : World) (program : Cycle.Program α) : α × World :=
  (program.interpret answer).run world

end World

end Registrar
