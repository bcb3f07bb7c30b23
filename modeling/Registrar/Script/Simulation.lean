import Registrar.Controller.Machine
import Registrar.Script.Setting
/-!
# A controller on a virtual clock

A simulation runs a controller against a scripted server. Its clock jumps from one happening to the
next, so idle time costs nothing. Happenings of the same time come in the order in which they were
planned, and cycles that are due start once nothing else is left at that time.
-/

set_option autoImplicit false

namespace Registrar.Script

open Api (Request Response)
open Controller (Effect Feed Input Machine Settings Worker)

inductive FeedStep where
  | list
  | watch
deriving DecidableEq, Repr

inductive Happening where
  | input (input : Input)
  | proceed (feed : Feed) (step : FeedStep)
  | listed (feed : Feed) (reply : Except String Response)
  | opened (feed : Feed) (reaction : Reaction)
  /-- A change on the stream of a feed with that number. -/
  | changed (feed : Feed) (stream : Nat) (event : Json)

abbrev Agenda :=
  List (Nat × Happening)

/-- Plan something. It comes after everything that is planned for the same time. -/
def Agenda.plan (time : Nat) (happening : Happening) : Agenda → Agenda
  | [] => [(time, happening)]
  | (other, planned) :: rest =>
      if time < other then (time, happening) :: (other, planned) :: rest
      else (other, planned) :: plan time happening rest

/-- A controller, the server it talks to, and the requests so far, the latest first. -/
structure Simulation where
  machine : Machine
  routes : Routes := []
  now : Nat := 0
  agenda : Agenda := []
  /-- How often a feed has failed in a row. -/
  failures : Feed → Nat := fun _ => 0
  /-- The number of the stream that a feed listens to. -/
  streams : Feed → Nat := fun _ => 0
  requests : List (Nat × Request) := []

namespace Simulation

def update (table : Feed → Nat) (feed : Feed) (value : Nat) : Feed → Nat :=
  fun other => if other = feed then value else table other

def planIn (simulation : Simulation) (delay : Nat) (happening : Happening) : Simulation :=
  { simulation with agenda := simulation.agenda.plan (simulation.now + delay) happening }

/-- Send a request, and plan what follows unless there is never an answer. -/
def send (simulation : Simulation) (request : Request) (follow : Reaction → Happening) :
    Simulation :=
  let (delayed, routes) := simulation.routes.react request
  let sent := { simulation with
    routes := routes
    requests := (simulation.now, request) :: simulation.requests }
  match delayed.reaction with
  | .hang => sent
  | reaction => sent.planIn delayed.delay (follow reaction)

def carryOut (simulation : Simulation) : List Effect → Simulation
  | [] => simulation
  | .exchange worker request :: rest =>
      (simulation.send request fun reaction => .input (.reply worker reaction.reply)).carryOut rest
  | .follow feed :: rest => (simulation.planIn 0 (.proceed feed .list)).carryOut rest

def tell (simulation : Simulation) (input : Input) : Simulation :=
  let (machine, effects) := simulation.machine.step simulation.now input
  { simulation with machine := machine }.carryOut effects

def rest (simulation : Simulation) (feed : Feed) (step : FeedStep) : Simulation :=
  let failures := simulation.failures feed
  { simulation with failures := update simulation.failures feed (failures + 1) }.planIn
    (Feed.pause failures) (.proceed feed step)

/-- Take a step of a feed. A stream that was open is not listened to any longer. -/
def proceed (simulation : Simulation) (feed : Feed) (step : FeedStep) : Simulation :=
  let identity := simulation.machine.settings.identity
  let fresh := { simulation with
    streams := update simulation.streams feed (simulation.streams feed + 1) }
  match step with
  | .list =>
      match feed.listRequest identity with
      | .ok request =>
          (fresh.tell (.event feed .listStarted)).send request fun reaction =>
            .listed feed reaction.reply
      | .error _ => fresh.rest feed .list
  | .watch =>
      match feed.watchRequest identity with
      | .ok request => fresh.send request (.opened feed)
      | .error _ => fresh.rest feed .watch

def takeListing (simulation : Simulation) (feed : Feed) (reply : Except String Response) :
    Simulation :=
  match feed.takeListing reply with
  | none => simulation.rest feed .list
  | some items =>
      let events := items.map CacheEvent.listed ++ [.listEnded]
      let told := events.foldl (fun simulation event => simulation.tell (.event feed event))
        simulation
      { told with failures := update told.failures feed 0 }.planIn 0 (.proceed feed .watch)

def takeStream (simulation : Simulation) (feed : Feed) (reaction : Reaction) : Simulation :=
  match reaction with
  | .follow changes =>
      changes.foldl (fun simulation change =>
        simulation.planIn (change.time - simulation.now)
          (.changed feed (simulation.streams feed) change.event)) simulation
  | _ => simulation.rest feed .watch

def takeChange (simulation : Simulation) (feed : Feed) (value : Json) : Simulation :=
  match feed.readChange value with
  | .event event => simulation.tell (.event feed event)
  | .nothing => simulation
  | .outdated => simulation.rest feed .list

def happen (simulation : Simulation) : Happening → Simulation
  | .input input => simulation.tell input
  | .proceed feed step => simulation.proceed feed step
  | .listed feed reply => simulation.takeListing feed reply
  | .opened feed reaction => simulation.takeStream feed reaction
  | .changed feed stream event =>
      if simulation.streams feed = stream then simulation.takeChange feed event else simulation

def nextTime? (simulation : Simulation) : Option Nat :=
  let planned := simulation.agenda.head?.map Prod.fst
  match planned, simulation.machine.nextTime? with
  | some planned, some due => some (min planned due)
  | some planned, none => some planned
  | none, due => due

def advance (simulation : Simulation) : Simulation :=
  match simulation.agenda with
  | (time, happening) :: rest =>
      if time ≤ simulation.now then { simulation with agenda := rest }.happen happening
      else simulation.tell .settle
  | [] => simulation.tell .settle

/-- Run until the controller stops or the clock would pass the end. -/
def run (simulation : Simulation) (last : Nat) : Nat → Simulation
  | 0 => simulation
  | fuel + 1 =>
      match simulation.machine.result?, simulation.nextTime? with
      | none, some time =>
          if time ≤ last then
            ({ simulation with now := max simulation.now time }.advance).run last fuel
          else simulation
      | _, _ => simulation

def density : Nat :=
  1000

/-- A controller that has not started yet; a shutdown can be planned for a time. -/
def ofMachine (machine : Machine) (routes : Routes) (shutdown : Option Nat) : Simulation :=
  let simulation : Simulation := { machine := machine, routes := routes }
  let planned := shutdown.elim simulation fun time => simulation.planIn time (.input (.signal .trigger))
  planned.planIn 0 (.input .start)

def runUntil (simulation : Simulation) (last : Nat) : Simulation :=
  simulation.run last (density * (last + 1))

def collections (simulation : Simulation) : List String :=
  (Feed.cache :: Machine.servedFeeds).map (Feed.collection simulation.machine.settings.identity)

def isListing (simulation : Simulation) (request : Request) : Bool :=
  request.method = .get && simulation.collections.contains request.target.path

def objectRequests (simulation : Simulation) : List (Nat × Request) :=
  simulation.requests.reverse.filter fun entry => !simulation.isListing entry.2

def listings (simulation : Simulation) : List Request :=
  (simulation.requests.reverse.map Prod.snd).filter simulation.isListing

end Simulation

end Registrar.Script
