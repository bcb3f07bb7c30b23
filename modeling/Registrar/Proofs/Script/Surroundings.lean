import Registrar.Proofs.Controller.CompleteCache
import Registrar.Script.Simulation
/-!
# What a simulation does to its controller

A simulation tells its controller only what surroundings may do: it is started once, and a feed tells
something only after the controller has opened it. So whatever holds of a controller in any
surroundings holds of it in every simulation, whatever the routes are and whenever the signal comes.
-/

set_option autoImplicit false

namespace Registrar.Script

open Controller
open Api (Request)

/-! ## What is planned -/

namespace Happening

def starts : Happening → Bool
  | .input .start => true
  | _ => false

/-- What can be planned: an answer, the signal, or a step of a feed that is open. -/
def Due (history : List Moment) : Happening → Prop
  | .input .start => True
  | .input (.reply _ _) => True
  | .input (.signal _) => True
  | .input (.event _ _) => False
  | .input .settle => False
  | .proceed feed _ => (Account.ofHistory history).followed feed = true
  | .listed feed _ => (Account.ofHistory history).followed feed = true
  | .opened feed _ => (Account.ofHistory history).followed feed = true
  | .changed feed _ _ => (Account.ofHistory history).followed feed = true

theorem Due.append {past : List Moment} {happening : Happening} (due : happening.Due past)
    (later : List Moment) : happening.Due (past ++ later) := by
  have followed {feed : Feed} (here : (Account.ofHistory past).followed feed = true) :
      (Account.ofHistory (past ++ later)).followed feed = true := by
    unfold Account.followed Account.ofHistory effects at *
    rw [List.filterMap_append, List.any_append, here]
    rfl
  cases happening with
  | input input => cases input <;> exact due
  | proceed => exact followed due
  | listed => exact followed due
  | opened => exact followed due
  | changed => exact followed due

end Happening

namespace Agenda

theorem mem_plan {time : Nat} {happening : Happening} {agenda : Agenda} {entry : Nat × Happening}
    (member : entry ∈ agenda.plan time happening) :
    entry = (time, happening) ∨ entry ∈ agenda := by
  induction agenda with
  | nil => exact .inl (List.mem_singleton.mp member)
  | cons first rest ih =>
      obtain ⟨other, planned⟩ := first
      unfold plan at member
      split at member
      · exact List.mem_cons.mp member
      · rcases List.mem_cons.mp member with same | later
        · exact .inr (same ▸ .head _)
        · exact (ih later).imp_right (.tail _)

theorem countP_plan (holds : Nat × Happening → Bool) (time : Nat) (happening : Happening)
    (agenda : Agenda) :
    (agenda.plan time happening).countP holds =
      agenda.countP holds + if holds (time, happening) then 1 else 0 := by
  induction agenda with
  | nil => simp [plan, List.countP_cons]
  | cons first rest ih =>
      obtain ⟨other, planned⟩ := first
      unfold plan
      split
      · exact List.countP_cons
      · rw [List.countP_cons, List.countP_cons, ih]
        omega

end Agenda

/-! ## Driven controllers -/

namespace Simulation

/-- The controller of a simulation has been told these inputs, and more of the kind is planned. -/
structure Driven (fresh : Machine) (simulation : Simulation) (inputs : List (Nat × Input)) :
    Prop where
  machine : simulation.machine = fresh.after inputs
  admitted : fresh.admitsAll [] inputs = true
  due : ∀ entry ∈ simulation.agenda, entry.2.Due (fresh.history inputs)
  once : simulation.agenda.countP (fun entry => entry.2.starts) +
    (started (fresh.history inputs)).toNat ≤ 1

/-- More was told after some inputs. -/
def DrivenOn (fresh : Machine) (past : List (Nat × Input)) (simulation : Simulation) : Prop :=
  ∃ later, Driven fresh simulation (past ++ later)

variable {fresh : Machine} {past : List (Nat × Input)} {simulation : Simulation}

theorem DrivenOn.planIn (driven : DrivenOn fresh past simulation) {happening : Happening}
    (due : happening.Due (fresh.history past)) (unstarted : happening.starts = false)
    (delay : Nat) : DrivenOn fresh past (simulation.planIn delay happening) := by
  obtain ⟨later, driven⟩ := driven
  refine ⟨later, driven.machine, driven.admitted, fun entry member => ?_, ?_⟩
  · rcases Agenda.mem_plan member with rfl | earlier
    · rw [Machine.history_append]
      exact due.append _
    · exact driven.due entry earlier
  · have counted := Agenda.countP_plan (fun entry => entry.2.starts)
      (simulation.now + delay) happening simulation.agenda
    refine Nat.le_trans (Nat.le_of_eq ?_) driven.once
    refine congrArg (· + _) (counted.trans ?_)
    rw [unstarted]
    rfl

theorem DrivenOn.of_eq {other : Simulation} (driven : DrivenOn fresh past simulation)
    (machine : other.machine = simulation.machine) (agenda : other.agenda = simulation.agenda) :
    DrivenOn fresh past other := by
  obtain ⟨later, driven⟩ := driven
  exact ⟨later, machine.trans driven.machine, driven.admitted, agenda ▸ driven.due,
    agenda ▸ driven.once⟩

theorem DrivenOn.of_append {more : List (Nat × Input)}
    (driven : DrivenOn fresh (past ++ more) simulation) : DrivenOn fresh past simulation := by
  obtain ⟨later, driven⟩ := driven
  exact ⟨more ++ later, by rwa [← List.append_assoc]⟩

theorem DrivenOn.send (driven : DrivenOn fresh past simulation) (request : Request)
    {follow : Reaction → Happening} (due : ∀ reaction, (follow reaction).Due (fresh.history past))
    (unstarted : ∀ reaction, (follow reaction).starts = false) :
    DrivenOn fresh past (simulation.send request follow) := by
  unfold Simulation.send
  dsimp only
  split
  · exact driven.of_eq rfl rfl
  · refine DrivenOn.planIn ?_ (due _) (unstarted _) _
    exact driven.of_eq rfl rfl

theorem DrivenOn.carryOut (driven : DrivenOn fresh past simulation) {done : List Effect}
    (opened : ∀ feed, .follow feed ∈ done →
      (Account.ofHistory (fresh.history past)).followed feed = true) :
    DrivenOn fresh past (simulation.carryOut done) := by
  induction done generalizing simulation with
  | nil => exact driven
  | cons effect rest ih =>
      have later : ∀ feed, .follow feed ∈ rest →
          (Account.ofHistory (fresh.history past)).followed feed = true :=
        fun feed member => opened feed (.tail _ member)
      cases effect with
      | exchange worker request =>
          exact ih (driven.send request (fun _ => trivial) fun _ => rfl) later
      | follow feed =>
          have due : Happening.Due (fresh.history past) (.proceed feed .list) :=
            opened feed (.head _)
          exact ih (driven.planIn due rfl 0) later

theorem Driven.tell {inputs : List (Nat × Input)} (driven : Driven fresh simulation inputs)
    {input : Input} (admitted : (Account.ofHistory (fresh.history inputs)).admits input = true)
    (room : simulation.agenda.countP (fun entry => entry.2.starts) +
      (started (fresh.history inputs) || input.isStart).toNat ≤ 1) :
    DrivenOn fresh (inputs ++ [(simulation.now, input)]) (simulation.tell input) := by
  have history : fresh.history (inputs ++ [(simulation.now, input)]) =
      fresh.history inputs ++ simulation.machine.turn simulation.now input := by
    rw [Machine.history_append, driven.machine]
    exact congrArg (_ ++ ·) (List.append_nil _)
  have told : Driven fresh
      { simulation with machine := (simulation.machine.step simulation.now input).1 }
      (inputs ++ [(simulation.now, input)]) := by
    refine ⟨?_, ?_, fun entry member => ?_, ?_⟩
    · rw [Machine.after_append, ← driven.machine]
      rfl
    · rw [Machine.admitsAll_append, driven.admitted, List.nil_append]
      simpa [Machine.admitsAll] using admitted
    · rw [history]
      exact (driven.due entry member).append _
    · rw [history, started_turn]
      exact room
  refine DrivenOn.carryOut ⟨[], by rwa [List.append_nil]⟩ fun feed member => ?_
  rw [history, Account.ofHistory_turn]
  refine List.any_eq_true.mpr ⟨.follow feed, List.mem_append_right _ member, ?_⟩
  exact decide_eq_true rfl

theorem DrivenOn.tell (driven : DrivenOn fresh past simulation) {input : Input}
    (unstarting : input.isStart = false)
    (opened : ∀ feed event, input = .event feed event →
      (Account.ofHistory (fresh.history past)).followed feed = true) :
    DrivenOn fresh past (simulation.tell input) := by
  obtain ⟨later, driven⟩ := driven
  refine (driven.tell ?_ ?_).of_append.of_append
  · cases input with
    | start => cases unstarting
    | event feed event =>
        have due : Happening.Due (fresh.history past) (.proceed feed .list) :=
          opened feed event rfl
        rw [Machine.history_append]
        exact due.append _
    | _ => rfl
  · rw [unstarting, Bool.or_false]
    exact driven.once

/-! ## What happens -/

section Feed

variable {feed : Feed}

theorem DrivenOn.tellEvent (driven : DrivenOn fresh past simulation)
    (opened : (Account.ofHistory (fresh.history past)).followed feed = true)
    (event : CacheEvent feed.Object) :
    DrivenOn fresh past (simulation.tell (.event feed event)) := by
  refine driven.tell rfl fun other _ same => ?_
  cases same
  exact opened

theorem DrivenOn.rest (driven : DrivenOn fresh past simulation)
    (opened : (Account.ofHistory (fresh.history past)).followed feed = true) (step : FeedStep) :
    DrivenOn fresh past (simulation.rest feed step) := by
  have due : Happening.Due (fresh.history past) (.proceed feed step) := opened
  refine DrivenOn.planIn ?_ due rfl _
  exact driven.of_eq rfl rfl

theorem DrivenOn.proceed (driven : DrivenOn fresh past simulation)
    (opened : (Account.ofHistory (fresh.history past)).followed feed = true) (step : FeedStep) :
    DrivenOn fresh past (simulation.proceed feed step) := by
  have listening : DrivenOn fresh past { simulation with
      streams := update simulation.streams feed (simulation.streams feed + 1) } :=
    driven.of_eq rfl rfl
  unfold Simulation.proceed
  dsimp only
  cases step with
  | list =>
      dsimp only
      split
      · exact (listening.tellEvent opened _).send _ (fun _ => opened) fun _ => rfl
      · exact listening.rest opened _
  | watch =>
      dsimp only
      split
      · exact listening.send _ (fun _ => opened) fun _ => rfl
      · exact listening.rest opened _

theorem DrivenOn.takeListing (driven : DrivenOn fresh past simulation)
    (opened : (Account.ofHistory (fresh.history past)).followed feed = true)
    (reply : Except String Api.Response) :
    DrivenOn fresh past (simulation.takeListing feed reply) := by
  have told (events : List (CacheEvent feed.Object)) : ∀ {simulation : Simulation},
      DrivenOn fresh past simulation → DrivenOn fresh past (events.foldl
        (fun simulation event => simulation.tell (.event feed event)) simulation) := by
    induction events with
    | nil => exact fun driven => driven
    | cons event rest ih => exact fun driven => ih (driven.tellEvent opened event)
  have due : Happening.Due (fresh.history past) (.proceed feed .watch) := opened
  unfold Simulation.takeListing
  split
  · exact driven.rest opened _
  · refine DrivenOn.planIn ?_ due rfl _
    exact (told _ driven).of_eq rfl rfl

theorem DrivenOn.takeStream (driven : DrivenOn fresh past simulation)
    (opened : (Account.ofHistory (fresh.history past)).followed feed = true)
    (reaction : Reaction) : DrivenOn fresh past (simulation.takeStream feed reaction) := by
  unfold Simulation.takeStream
  split
  · next changes =>
      induction changes generalizing simulation with
      | nil => exact driven
      | cons change rest ih =>
          have due : Happening.Due (fresh.history past)
              (.changed feed (simulation.streams feed) change.event) := opened
          exact ih (driven.planIn due rfl _)
  · exact driven.rest opened _

theorem DrivenOn.takeChange (driven : DrivenOn fresh past simulation)
    (opened : (Account.ofHistory (fresh.history past)).followed feed = true) (value : Json) :
    DrivenOn fresh past (simulation.takeChange feed value) := by
  unfold Simulation.takeChange
  split
  · exact driven.tellEvent opened _
  · exact driven
  · exact driven.rest opened _

end Feed

theorem DrivenOn.happen {inputs : List (Nat × Input)} {time : Nat} {happening : Happening}
    {rest : Agenda} (driven : Driven fresh simulation inputs)
    (next : simulation.agenda = (time, happening) :: rest) :
    DrivenOn fresh inputs ({ simulation with agenda := rest }.happen happening) := by
  have due := driven.due (time, happening) (next ▸ .head _)
  have once := driven.once
  rw [next, List.countP_cons] at once
  have fewer : rest.countP (fun entry => entry.2.starts) +
      (started (fresh.history inputs)).toNat ≤ 1 := by omega
  have left : Driven fresh { simulation with agenda := rest } inputs :=
    ⟨driven.machine, driven.admitted, fun entry member => driven.due entry (next ▸ .tail _ member),
      fewer⟩
  have leftOn : DrivenOn fresh inputs { simulation with agenda := rest } :=
    ⟨[], by rwa [List.append_nil]⟩
  cases happening with
  | proceed feed step => exact leftOn.proceed due step
  | listed feed reply => exact leftOn.takeListing due reply
  | opened feed reaction => exact leftOn.takeStream due reaction
  | changed feed stream event =>
      dsimp only [Simulation.happen]
      split
      · exact leftOn.takeChange due event
      · exact leftOn
  | input input =>
      cases input with
      | event => exact due.elim
      | settle => exact due.elim
      | reply worker reply => exact leftOn.tell rfl fun _ _ same => by cases same
      | signal event => exact leftOn.tell rfl fun _ _ same => by cases same
      | start =>
          -- The start is planned once only, so it has not come before.
          have unstarted : started (fresh.history inputs) = false := by
            cases begun : started (fresh.history inputs) with
            | false => rfl
            | true =>
                rw [begun] at once
                simp [Happening.starts] at once
          refine (left.tell ?_ ?_).of_append
          · simp [Account.admits, Account.ofHistory, unstarted]
          · rw [unstarted]
            simp only [Happening.starts, if_true] at once
            exact Nat.le_trans (Nat.le_add_right _ _) once

theorem DrivenOn.advance (driven : DrivenOn fresh past simulation) :
    DrivenOn fresh past simulation.advance := by
  unfold Simulation.advance
  split
  · next time happening rest next =>
      split
      · obtain ⟨later, driven⟩ := driven
        exact (DrivenOn.happen driven next).of_append
      · exact driven.tell rfl fun _ _ same => by cases same
  · exact driven.tell rfl fun _ _ same => by cases same

theorem DrivenOn.run (driven : DrivenOn fresh past simulation) (last fuel : Nat) :
    DrivenOn fresh past (simulation.run last fuel) := by
  induction fuel generalizing simulation with
  | zero => exact driven
  | succ fuel ih =>
      unfold Simulation.run
      split
      · split
        · refine ih (DrivenOn.advance ?_)
          exact driven.of_eq rfl rfl
        · exact driven
      · exact driven

theorem driven_ofMachine (fresh : Machine) (routes : Routes) (shutdown : Option Nat) :
    Driven fresh (ofMachine fresh routes shutdown) [] := by
  refine ⟨by cases shutdown <;> rfl, rfl, fun entry member => ?_, ?_⟩
  · rcases Agenda.mem_plan member with rfl | earlier
    · exact trivial
    · cases shutdown with
      | none => cases earlier
      | some time =>
          cases List.mem_singleton.mp earlier
          exact trivial
  · refine Nat.le_of_eq ?_
    refine congrArg (· + 0) (Agenda.countP_plan (fun entry => entry.2.starts) _ _ _) |>.trans ?_
    cases shutdown <;> rfl

/-- Whatever the routes are and whenever the signal comes, the controller of a simulation has been told
what surroundings may do, so it has started up in order and has run no cycle on a partial cache. -/
theorem orderly_runUntil {fresh : Machine} (initial : Fresh fresh) (routes : Routes)
    (shutdown : Option Nat) (last : Nat) :
    ∃ inputs, fresh.admitsAll [] inputs = true ∧
      ((ofMachine fresh routes shutdown).runUntil last).machine = fresh.after inputs ∧
      Orderly fresh (fresh.history inputs) (fresh.after inputs) := by
  have driven : DrivenOn fresh [] (ofMachine fresh routes shutdown) :=
    ⟨[], driven_ofMachine fresh routes shutdown⟩
  obtain ⟨inputs, driven⟩ := driven.run last (density * (last + 1))
  rw [List.nil_append] at driven
  exact ⟨inputs, driven.admitted, driven.machine, (initial.stage.after driven.admitted).orderly⟩

end Simulation

end Registrar.Script
