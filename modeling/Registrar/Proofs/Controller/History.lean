import Registrar.Controller.Machine
import Registrar.Proofs.Cluster.Startup
import Registrar.Proofs.LastWord
/-!
# The history of a controller

A controller is told from outside by what it takes in and by what it does thereupon, in order. What
its surroundings may do is said here about that history, not about its state: they start it once, and
no feed tells anything before it is opened. They may answer in any way and at any time, or never, and
the signal may change at any time.
-/

set_option autoImplicit false

namespace Registrar.Controller

open Api (Request Response)

inductive Moment where
  | took (now : Nat) (input : Input)
  | did (effect : Effect)

/-! ## Runs -/

namespace Machine

def turn (machine : Machine) (now : Nat) (input : Input) : List Moment :=
  .took now input :: (machine.step now input).2.map .did

def after (machine : Machine) : List (Nat × Input) → Machine
  | [] => machine
  | (now, input) :: rest => (machine.step now input).1.after rest

def history (machine : Machine) : List (Nat × Input) → List Moment
  | [] => []
  | (now, input) :: rest => machine.turn now input ++ (machine.step now input).1.history rest

end Machine

/-! ## What a history tells -/

def effects (history : List Moment) : List Effect :=
  history.filterMap fun
    | .did effect => some effect
    | .took _ _ => none

/-- What the watch that fills the cache has told, the latest first. -/
def heard (history : List Moment) : List (CacheEvent Registration) :=
  (history.filterMap fun
    | .took _ (.event .cache event) => some event
    | _ => none).reverse

def Input.isStart : Input → Bool
  | .start => true
  | _ => false

def Input.isSignal : Input → Bool
  | .signal _ => true
  | _ => false

def started (history : List Moment) : Bool :=
  history.any fun
    | .took _ input => input.isStart
    | .did _ => false

/-- The signal was triggered, or its triggering side has gone away. -/
def signalled (history : List Moment) : Bool :=
  history.any fun
    | .took _ input => input.isSignal
    | .did _ => false

/-- What a worker has asked the server: the requests that were answered, and the one that is not. -/
structure Conversation where
  answered : List (Request × Except String Response) := []
  awaited : Option Request := none

namespace Conversation

def requests (conversation : Conversation) : List Request :=
  conversation.answered.map Prod.fst ++ conversation.awaited.toList

/-- An answer that nobody waits for is no part of a conversation. -/
def note (worker : Worker) (conversation : Conversation) : Moment → Conversation
  | .did (.exchange other request) =>
      if other = worker then { conversation with awaited := some request } else conversation
  | .took _ (.reply other reply) =>
      if other = worker then
        match conversation.awaited with
        | some request => ⟨conversation.answered ++ [(request, reply)], none⟩
        | none => conversation
      else conversation
  | _ => conversation

end Conversation

def conversation (worker : Worker) (history : List Moment) : Conversation :=
  history.foldl (Conversation.note worker) {}

/-! ## One turn -/

section Turn

variable (past : List Moment) (machine : Machine) (now : Nat) (input : Input)

theorem effects_turn :
    effects (past ++ machine.turn now input) = effects past ++ (machine.step now input).2 := by
  rw [effects, List.filterMap_append, Machine.turn, List.filterMap_cons, List.filterMap_map]
  exact congrArg (effects past ++ ·) List.filterMap_some

theorem heard_turn :
    heard (past ++ machine.turn now input) =
      match input with
      | .event .cache event => event :: heard past
      | _ => heard past := by
  have silent : ((machine.step now input).2.map Moment.did).filterMap (fun
      | .took _ (.event .cache event) => some event
      | _ => none) = [] := by
    rw [List.filterMap_map]
    exact List.filterMap_eq_nil_iff.mpr fun effect _ => rfl
  unfold heard Machine.turn
  rw [List.filterMap_append, List.filterMap_cons, silent, List.reverse_append]
  cases input with
  | event feed event => cases feed <;> rfl
  | _ => rfl

theorem any_turn (holds : Moment → Bool) (silent : ∀ effect, holds (.did effect) = false) :
    (past ++ machine.turn now input).any holds = (past.any holds || holds (.took now input)) := by
  have quiet : ((machine.step now input).2.map Moment.did).any holds = false := by
    rw [List.any_map]
    exact List.any_eq_false.mpr fun effect _ => Bool.eq_false_iff.mp (silent effect)
  rw [List.any_append, Machine.turn, List.any_cons, quiet, Bool.or_false]

theorem started_turn :
    started (past ++ machine.turn now input) = (started past || input.isStart) :=
  any_turn past machine now input _ fun _ => rfl

theorem signalled_turn :
    signalled (past ++ machine.turn now input) = (signalled past || input.isSignal) :=
  any_turn past machine now input _ fun _ => rfl

theorem conversation_turn (worker : Worker) :
    conversation worker (past ++ machine.turn now input) =
      ((machine.step now input).2.map Moment.did).foldl (Conversation.note worker)
        ((conversation worker past).note worker (.took now input)) :=
  List.foldl_append

end Turn

/-! ## Accounts -/

/-- All that matters of a history for how far a controller has come. -/
structure Account where
  effects : List Effect := []
  heard : List (CacheEvent Registration) := []
  started : Bool := false
  signalled : Bool := false
  startup : Conversation := {}

namespace Account

def ofHistory (history : List Moment) : Account :=
  ⟨Controller.effects history, Controller.heard history, Controller.started history,
    Controller.signalled history, conversation .startup history⟩

def followed (account : Account) (feed : Feed) : Bool :=
  account.effects.any fun
    | .follow other => other = feed
    | .exchange _ _ => false

/-- The surroundings may do this now. -/
def admits (account : Account) : Input → Bool
  | .start => !account.started
  | .event feed _ => account.followed feed
  | _ => true

def requested (account : Account) : List Effect :=
  account.startup.requests.map (.exchange .startup)

def hear (account : Account) (now : Nat) (input : Input) : Account where
  effects := account.effects
  heard :=
    match input with
    | .event .cache event => event :: account.heard
    | _ => account.heard
  started := account.started || input.isStart
  signalled := account.signalled || input.isSignal
  startup := account.startup.note .startup (.took now input)

def add (account : Account) (done : List Effect) : Account :=
  { account with
    effects := account.effects ++ done
    startup := (done.map Moment.did).foldl (Conversation.note .startup) account.startup }

theorem ofHistory_turn (past : List Moment) (machine : Machine) (now : Nat) (input : Input) :
    ofHistory (past ++ machine.turn now input) =
      ((ofHistory past).hear now input).add (machine.step now input).2 := by
  rw [ofHistory, effects_turn, heard_turn, started_turn, signalled_turn, conversation_turn]
  rfl

variable (account : Account)

theorem add_nil : account.add [] = account := by
  simp [add]

theorem requested_add_request (request : Request) (awaited : account.startup.awaited = none) :
    (account.add [.exchange .startup request]).requested =
      account.requested ++ [.exchange .startup request] := by
  simp [add, requested, Conversation.note, Conversation.requests, awaited]

theorem startup_add_of_elsewhere {done : List Effect}
    (elsewhere : ∀ request, .exchange .startup request ∉ done) :
    (account.add done).startup = account.startup := by
  unfold add
  dsimp only
  induction done with
  | nil => rfl
  | cons effect rest ih =>
      have noted : account.startup.note .startup (.did effect) = account.startup := by
        cases effect with
        | follow feed => rfl
        | exchange worker request =>
            refine if_neg fun same => ?_
            subst same
            exact elsewhere request (.head _)
      rw [List.map_cons, List.foldl_cons, noted]
      exact ih fun request member => elsewhere request (.tail _ member)

theorem startup_hear_of_unawaited (unawaited : account.startup.awaited = none) (now : Nat)
    (input : Input) : (account.hear now input).startup = account.startup := by
  cases input with
  | reply worker reply => simp [hear, Conversation.note, unawaited]
  | _ => rfl

/-- An input that is passed over leaves an account as it is. -/
theorem hear_of_harmless {now : Nat} {input : Input}
    (harmless : match input with
      | .reply .startup _ => account.startup.awaited = none
      | .reply (.cycle _) _ => True
      | .settle => True
      | .event feed _ => feed ≠ .cache
      | _ => False) :
    account.hear now input = account := by
  cases input with
  | start => exact harmless.elim
  | signal => exact harmless.elim
  | settle => simp [hear, Conversation.note, Input.isStart, Input.isSignal]
  | event feed event =>
      cases feed with
      | cache => exact absurd rfl harmless
      | _ => simp [hear, Conversation.note, Input.isStart, Input.isSignal]
  | reply worker reply =>
      cases worker with
      | startup => simp [hear, Conversation.note, Input.isStart, Input.isSignal, harmless]
      | cycle key => simp [hear, Conversation.note, Input.isStart, Input.isSignal]

end Account

/-- The surroundings may do all this, one after the other, after a history. -/
def Machine.admitsAll (machine : Machine) (past : List Moment) : List (Nat × Input) → Bool
  | [] => true
  | (now, input) :: rest =>
      (Account.ofHistory past).admits input &&
        (machine.step now input).1.admitsAll (past ++ machine.turn now input) rest

/-! ## Longer runs -/

namespace Machine

theorem after_append (machine : Machine) (first last : List (Nat × Input)) :
    machine.after (first ++ last) = (machine.after first).after last := by
  induction first generalizing machine with
  | nil => rfl
  | cons entry rest ih => exact ih _

theorem history_append (machine : Machine) (first last : List (Nat × Input)) :
    machine.history (first ++ last) =
      machine.history first ++ (machine.after first).history last := by
  induction first generalizing machine with
  | nil => rfl
  | cons entry rest ih =>
      refine (congrArg (_ ++ ·) (ih _)).trans ?_
      exact (List.append_assoc _ _ _).symm

theorem admitsAll_append (machine : Machine) (past : List Moment)
    (first last : List (Nat × Input)) :
    machine.admitsAll past (first ++ last) =
      (machine.admitsAll past first &&
        (machine.after first).admitsAll (past ++ machine.history first) last) := by
  induction first generalizing machine past with
  | nil => simp [admitsAll, after, history]
  | cons entry rest ih =>
      simp only [List.cons_append, admitsAll, after, history, ih, Bool.and_assoc,
        List.append_assoc]

end Machine

end Registrar.Controller
