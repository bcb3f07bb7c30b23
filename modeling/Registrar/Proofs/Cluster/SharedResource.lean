import Registrar.Proofs.Cluster.StatusServer
import Registrar.Proofs.Cluster.StatusStore
/-!
# The resource is shared

While an operator is at work, other clients can write the operator resource between any two of its
requests. A history tells in one sequence what the others wrote and what the operator exchanged; the
server shows the resource as it is at the moment of a read, and merges a patch into it as it is at
the moment of the patch.
-/

set_option autoImplicit false

namespace Registrar.Cluster

open Api

/-- The members of the resource. -/
abbrev Members :=
  List (String × Json)

inductive Moment where
  /-- Another client has written the resource. -/
  | changed (resource : Members)
  /-- An exchange of the operator that left the resource alone. -/
  | exchanged (exchange : Exchange statusCalls)
  /-- A patch of the operator was carried out, whatever it was told of that. -/
  | patched (patch : Request) (reply : Except String Response)

namespace Moment

def change? : Moment → Option Members
  | changed resource => some resource
  | _ => none

def exchange? : Moment → Option (Exchange statusCalls)
  | changed _ => none
  | exchanged exchange => some exchange
  | patched patch reply => some ⟨.ask (.exchange patch), reply⟩

end Moment

def changes (history : List Moment) : List Members :=
  history.filterMap Moment.change?

/-- What the operator exchanged in the course of a history. -/
def made (history : List Moment) : Transcript statusCalls :=
  history.filterMap Moment.exchange?

/-- What other clients have last written, or what there was at first. -/
def lastWritten (first : Members) (history : List Moment) : Members :=
  (changes history).getLast?.getD first

/-! ## Splitting a history -/

variable {first last resource : Members} {history : List Moment}

theorem changes_append (earlier later : List Moment) :
    changes (earlier ++ later) = changes earlier ++ changes later :=
  List.filterMap_append

theorem made_append (earlier later : List Moment) :
    made (earlier ++ later) = made earlier ++ made later :=
  List.filterMap_append

theorem made_cons {moment : Moment} {exchange : Exchange statusCalls}
    (exchanged : moment.exchange? = some exchange) (later : List Moment) :
    made (moment :: later) = exchange :: made later :=
  List.filterMap_cons_some exchanged

theorem lastWritten_append (first : Members) (earlier later : List Moment) :
    lastWritten first (earlier ++ later) = lastWritten (lastWritten first earlier) later := by
  simp [lastWritten, changes_append, List.getLast?_append, Option.getD_or]

/-- What there was at first makes a difference only as long as nobody has written. -/
theorem lastWritten_congr {β : Type} (view : Members → β) {other : Members}
    (same : view first = view other) :
    view (lastWritten first history) = view (lastWritten other history) := by
  unfold lastWritten
  cases (changes history).getLast? with
  | none => exact same
  | some written => rfl

theorem exists_of_made_append {earlier later : Transcript statusCalls}
    (same : made history = earlier ++ later) :
    ∃ before after, history = before ++ after ∧ made before = earlier ∧ made after = later :=
  List.filterMap_eq_append_iff.mp same

theorem exists_of_made_cons {exchange : Exchange statusCalls} {rest : Transcript statusCalls}
    (same : made history = exchange :: rest) :
    ∃ before moment after, history = before ++ moment :: after ∧ made before = [] ∧
      moment.exchange? = some exchange ∧ made after = rest := by
  obtain ⟨before, moment, after, rfl, silent, exchanged, made⟩ := List.filterMap_eq_cons_iff.mp same
  exact ⟨before, moment, after, rfl, List.filterMap_eq_nil_iff.mpr silent, exchanged, made⟩

/-! ## What the server does -/

/-- An exchange asks for the resource of this name, and the reply can be read. -/
def Shows (name : String) (operator : Operator) : Exchange statusCalls → Prop
  | ⟨.ask (.exchange request), reply⟩ =>
      Request.read Collection.operators name = .ok request ∧
        outcome Operator.ofJson reply = .ok operator
  | _ => False

theorem StatusUpdate.shows {name : String} {conditions : List Condition}
    (update : StatusUpdate name conditions) :
    Shows name update.operator (asked ⟨.exchange update.read, update.reply⟩) :=
  ⟨update.addressed, update.decoded⟩

namespace Server

/-- The resource is shown as it is, if it is shown at all. -/
def Truthful (server : Server) (resource : Members) (exchange : Exchange statusCalls) : Prop :=
  ∀ operator, Shows server.name operator exchange →
    Operator.ofJson (.object resource) = .ok operator

/-- The resource after a request was served. -/
def served (server : Server) (request : Request) (resource : Members) : Members :=
  (server.serve request { resource }).2.resource

/-- The resource goes through a history in which others change it as they may. -/
inductive Passes (server : Server) (change : Members → Members → Prop) :
    Members → List Moment → Members → Prop where
  | nil (resource : Members) : Passes server change resource [] resource
  | changed {before after last : Members} {rest : List Moment} :
      change before after → Passes server change after rest last →
      Passes server change before (.changed after :: rest) last
  | exchanged {before last : Members} {exchange : Exchange statusCalls} {rest : List Moment} :
      server.Truthful before exchange → Passes server change before rest last →
      Passes server change before (.exchanged exchange :: rest) last
  | patched {before last : Members} {patch : Request} {reply : Except String Response}
      {rest : List Moment} :
      patch.method = .patch → Passes server change (server.served patch before) rest last →
      Passes server change before (.patched patch reply :: rest) last

namespace Passes

variable {server : Server} {change : Members → Members → Prop}

theorem exchanged_append {exchanges : Transcript statusCalls}
    (blind : ∀ exchange ∈ exchanges, ∀ operator, ¬ Shows server.name operator exchange)
    (passes : Passes server change first history last) :
    Passes server change first (exchanges.map .exchanged ++ history) last := by
  induction exchanges with
  | nil => exact passes
  | cons exchange rest ih =>
      obtain ⟨here, later⟩ := List.forall_mem_cons.mp blind
      exact .exchanged (fun operator showing => absurd showing (here operator)) (ih later)

theorem append_inv {earlier later : List Moment}
    (passes : Passes server change first (earlier ++ later) last) :
    ∃ middle, Passes server change first earlier middle ∧
      Passes server change middle later last := by
  induction earlier generalizing first with
  | nil => exact ⟨first, .nil first, passes⟩
  | cons moment earlier ih =>
      cases passes with
      | changed allowed passes =>
          obtain ⟨middle, before, after⟩ := ih passes
          exact ⟨middle, .changed allowed before, after⟩
      | exchanged truthful passes =>
          obtain ⟨middle, before, after⟩ := ih passes
          exact ⟨middle, .exchanged truthful before, after⟩
      | patched method passes =>
          obtain ⟨middle, before, after⟩ := ih passes
          exact ⟨middle, .patched method before, after⟩

/-- As long as no patch is carried out, the resource is what others have last written. -/
theorem eq_lastWritten (passes : Passes server change first history last)
    (unpatched : ∀ patch reply, .patched patch reply ∉ history) :
    last = lastWritten first history := by
  induction passes with
  | nil resource => rfl
  | @changed before after last rest _ _ ih =>
      rw [ih fun patch reply member => unpatched patch reply (.tail _ member)]
      exact (lastWritten_append before [.changed after] rest).symm
  | @exchanged before last exchange rest _ _ ih =>
      exact ih fun patch reply member => unpatched patch reply (.tail _ member)
  | patched => exact absurd (.head _) (unpatched _ _)

/-- A patch was exchanged where it was carried out. -/
theorem isPatch_of_patched (passes : Passes server change first history last) {patch : Request}
    {reply : Except String Response} (member : .patched patch reply ∈ history) :
    ⟨.ask (.exchange patch), reply⟩ ∈ made history ∧ patch.method = .patch := by
  obtain ⟨before, after, rfl⟩ := List.append_of_mem member
  obtain ⟨middle, -, passes⟩ := passes.append_inv
  refine ⟨List.mem_filterMap.mpr ⟨_, member, rfl⟩, ?_⟩
  cases passes with
  | patched method _ => exact method

theorem eq_exchanged (passes : Passes server change first history last) {moment : Moment}
    (member : moment ∈ history) {exchange : Exchange statusCalls}
    (exchanged : moment.exchange? = some exchange) (unpatched : ¬ exchange.question.IsPatch) :
    moment = .exchanged exchange := by
  cases moment with
  | changed resource => cases exchanged
  | exchanged other => exact congrArg Moment.exchanged (Option.some.inj exchanged)
  | patched patch reply =>
      obtain rfl := Option.some.inj exchanged
      exact absurd (passes.isPatch_of_patched member).2 unpatched

theorem unpatched_of_made (passes : Passes server change first history last)
    (quiet : Unpatched (made history)) : ∀ patch reply, .patched patch reply ∉ history := by
  intro patch reply member
  obtain ⟨exchanged, method⟩ := passes.isPatch_of_patched member
  exact quiet _ exchanged method

/-- What holds at first, is kept by the others and by every patch, holds in the end. -/
theorem preserves {property : Members → Prop} (passes : Passes server change first history last)
    (changed : ∀ {before after}, change before after → property before → property after)
    (served : ∀ {patch reply before}, .patched patch reply ∈ history → property before →
      property (server.served patch before))
    (holds : property first) : property last := by
  induction passes with
  | nil resource => exact holds
  | changed allowed _ ih =>
      exact ih (fun member => served (.tail _ member)) (changed allowed holds)
  | exchanged _ _ ih => exact ih (fun member => served (.tail _ member)) holds
  | patched _ _ ih => exact ih (fun member => served (.tail _ member)) (served (.head _) holds)

end Passes

end Server

/-! ## A server for samples -/

theorem Server.marked_id {members : Members} {operator : Operator}
    (readable : Operator.ofJson (.object members) = .ok operator) :
    ∃ metadata, Operator.ofJson (.object (id members)) = .ok { operator with metadata } ∧
      metadata.generation = operator.metadata.generation :=
  ⟨_, readable, rfl⟩

/-- A server that keeps no marks. -/
def plainServer : Server where
  name := "cluster"
  clock _ := "10:05"
  mark := id
  marked := @Server.marked_id

/-- Requests are answered from a list, and nothing else comes up. -/
def scripted : (question : StatusCall) → StateM (List (Except String Response)) question.Reply
  | .ask (.exchange _) =>
      modifyGet fun replies => (replies.headD (.error "connection reset"), replies.tail)
  | .ask question => return ((sampleServer question).run ()).1
  | .call .readMode => return .ok .managed
  | .call .listManaged => return .ok ⟨[], []⟩
  | .call (.cached _) => return none
  | .call (.delete _) => return .ok ()
  | .call (.check _) => return .ok true
  | .call (.apply desired) => return .ok ⟨desired, false⟩
  | .call (.probe _) => return []
  | .call (.writeConditions _) => return .ok ()
  | .call (.warn _ _) => return ()
  | .call .isShuttingDown => return false
  | .call .now => return "10:04"
  | .call (.observe _) => return ()

def sampleRead : Request :=
  ⟨.get, ⟨Collection.operators ++ "/cluster", []⟩, none, none⟩

/-- What a good report makes of the conditions of the sample. -/
def sampleMerged : List Condition :=
  [.notDegraded "09:00", .available "10:05", ⟨"Upgradeable", .true, "08:00", "", ""⟩]

def samplePatch (generation : Int64) : Request :=
  ⟨.patch, ⟨Collection.operators ++ "/cluster/status", [ownership]⟩,
    some "application/merge-patch+json",
    some (.object [("status", statusPatch sampleMerged (some generation))])⟩

def shown (operator : Operator) : Except String Response :=
  .ok ⟨200, .json operator.toJson⟩

theorem truthful_shown (server : Server) (request : Request) (operator : Operator) :
    server.Truthful operator.toJson.members ⟨.ask (.exchange request), shown operator⟩ := by
  intro other showing
  obtain ⟨-, told⟩ := showing
  unfold shown at told
  rw [Server.outcome_json, decode] at told
  cases held : Operator.ofJson operator.toJson with
  | error cause =>
      rw [held] at told
      cases told
  | ok _ =>
      rw [held] at told
      cases told
      exact held

end Registrar.Cluster
