import Registrar.Proofs.Cluster.StatusServer
import Registrar.Proofs.Repetition
/-!
# A steady state is not written again

An operator that reports to the API server is woken up by what it writes, so a report that changes
nothing must not be written. As long as nothing around it changes, only the first of its cycles can
write: all later ones find their conditions said already, whatever the clock shows and in whatever
order the source lists the enabled registrations.
-/

set_option autoImplicit false

namespace Registrar.Cycle

open Cluster (Server Site)
open Cluster.Server (Written)
open Interaction (Follows)

/-- What surrounds an operator, apart from the lists of its source. -/
structure Surroundings where
  server : Server
  check : List Registration → Except Failure Bool
  /-- The gate does not look at the order. -/
  check_perm : ∀ {enabled others : List Registration}, others.Perm enabled →
    check others = check enabled
  probe : List GroupVersion → List String
  /-- Whether the process is shutting down, as the clock goes. -/
  stopping : Nat → Bool

/-- A store of registrations, and the site of the operator resource. -/
abbrev Premises :=
  World.Store × Site

namespace Surroundings

def atSite {α : Type} (action : StateM Site α) : StateM Premises α :=
  modifyGet fun (store, site) => ((action.run site).1, (store, (action.run site).2))

/-- The answers in a cycle for which the source lists these registrations. -/
def answer (surroundings : Surroundings) (lists : ManagedRegistrations) :
    (question : Call) → StateM Premises question.Reply
  | .readMode =>
      atSite ((Cluster.readMode surroundings.server.name).interpret surroundings.server.answer)
  | .listManaged => return .ok lists
  | .cached name => modifyGet fun (store, site) => (store.get? name, (store, site))
  | .delete name =>
      modifyGet fun (store, site) => ((store.delete name).1, ((store.delete name).2, site))
  | .check enabled => return surroundings.check enabled
  | .apply desired =>
      modifyGet fun (store, site) => ((store.apply desired).1, ((store.apply desired).2, site))
  | .probe groupVersions => return surroundings.probe groupVersions
  | .writeConditions conditions =>
      atSite ((Cluster.writeConditions surroundings.server.name conditions).interpret
        surroundings.server.answer)
  | .warn _ _ => return ()
  | .isShuttingDown =>
      modifyGet fun (store, site) => (surroundings.stopping site.ticks, (store, site))
  | .now => atSite (surroundings.server.answer .now)
  | .observe _ => return ()

/-- Cycles one after the other, each with the lists of its own. -/
def cycles (surroundings : Surroundings) (prober : Bool) :
    List ManagedRegistrations → Premises → List (Performance Premises)
  | [], _ => []
  | lists :: rest, premises =>
      let performance := perform (surroundings.answer lists) prober premises
      performance :: surroundings.cycles prober rest performance.state

/-- What the replies are that the store and the resource have nothing to do with. -/
def Told (surroundings : Surroundings) (lists : ManagedRegistrations) : Exchange calls → Prop
  | ⟨.listManaged, reply⟩ => reply = .ok lists
  | ⟨.check enabled, reply⟩ => reply = surroundings.check enabled
  | ⟨.probe groupVersions, reply⟩ => reply = surroundings.probe groupVersions
  | ⟨.isShuttingDown, reply⟩ => ∃ ticks, reply = surroundings.stopping ticks
  | _ => True

variable {surroundings : Surroundings} {lists : ManagedRegistrations}

theorem told_of_follows {transcript : Transcript calls} {first last : Premises}
    (followed : Follows (surroundings.answer lists) first transcript last) :
    ∀ exchange ∈ transcript, surroundings.Told lists exchange := by
  refine followed.forall_mem fun question state => ?_
  cases question <;> first | rfl | trivial | exact ⟨state.2.ticks, rfl⟩

theorem serves_of_follows {transcript : Transcript calls} {first last : Premises}
    (followed : Follows (surroundings.answer lists) first transcript last) :
    first.1.Serves transcript ∧ last.1 = first.1.after transcript := by
  refine World.Store.serves_of_follows (fun question state => ?_) followed
  cases question <;> exact ⟨by trivial, rfl⟩

def AtResource : Call → Prop
  | .readMode | .writeConditions _ => True
  | _ => False

/-- Other calls are not seen at the resource. -/
theorem site_of_follows {transcript : Transcript calls} {first last : Premises}
    (followed : Follows (surroundings.answer lists) first transcript last)
    (elsewhere : ∀ exchange ∈ transcript, ¬ AtResource exchange.question) :
    last.2.resource = first.2.resource ∧ last.2.patches = first.2.patches := by
  have kept := followed.view_eq (fun premises => (premises.2.resource, premises.2.patches))
    (fun question => ¬ AtResource question) ?_ elsewhere
  · exact Prod.ext_iff.mp kept
  · intro question harmless state
    cases question with
    | readMode | writeConditions => exact absurd trivial harmless
    | _ => rfl

/-! ## One cycle -/

/-- What a managed cycle made of its premises, if its report was not suppressed. -/
structure Went (surroundings : Surroundings) {prober : Bool} {lists : ManagedRegistrations}
    (before : Premises) (run : ManagedRun prober lists.resolve)
    (performance : Performance Premises) : Prop where
  transcript : performance.transcript = run.transcript
  result : performance.result = aggregate run.outcomes.failures
  served : before.1.Serves run.exchanges
  store : performance.state.1 = before.1.after run.exchanges
  told : ∀ exchange ∈ run.exchanges, surroundings.Told lists exchange
  written : ∃ operator degradedAt availableAt, before.2.read = .ok operator ∧
    Written operator [run.outcomes.degraded degradedAt, run.outcomes.available availableAt]
      before.2 performance.state.2

theorem exists_managedRun (prober : Bool) {before : Premises}
    (managed : ((surroundings.answer lists .readMode).run before).1 = .ok .managed) :
    ∃ run : ManagedRun prober lists.resolve,
      (perform (surroundings.answer lists) prober before).transcript = run.transcript ∧
      (perform (surroundings.answer lists) prober before).result = run.result := by
  have followed : Follows (surroundings.answer lists) before
      (perform (surroundings.answer lists) prober before).transcript
      (perform (surroundings.answer lists) prober before).state :=
    Interaction.follows_transcriptIn (sync prober) before
  have told := told_of_follows followed
  have instructed : ∀ {reply : Except Failure ManagementState} {rest : Transcript calls}
      {last : Premises}, Follows (surroundings.answer lists) before
        (⟨.readMode, reply⟩ :: rest : Transcript calls) last → .ok .managed = reply := by
    intro reply rest last followed
    cases followed with
    | cons answered _ =>
        rw [answered] at managed
        exact managed.symm
  have course := course_perform (surroundings.answer lists) prober before
  generalize perform (surroundings.answer lists) prober before = performance at *
  obtain ⟨transcript, result, state⟩ := performance
  cases course with
  | unread failure => cases instructed followed
  | unmanaged => cases instructed followed
  | unknown name => cases instructed followed
  | unlisted acting failure => cases told _ (.tail _ (.head _))
  | removed names => cases instructed followed
  | @managed others run =>
      cases told ⟨.listManaged, .ok others⟩ (.tail _ (.head _))
      exact ⟨run, rfl, rfl⟩

/-- A report that is not suppressed is written with its last call. -/
theorem exists_written {outcomes : Outcomes} {reporting : Transcript calls}
    {result : Except Failure Unit} (reported : Reported outcomes reporting result)
    (heeded : ⟨.isShuttingDown, true⟩ ∉ reporting) :
    ∃ quiet degradedAt availableAt reply, reporting = quiet ++
        [⟨.writeConditions [outcomes.degraded degradedAt, outcomes.available availableAt], reply⟩] ∧
      (∀ exchange ∈ quiet, ¬ AtResource exchange.question) ∧
      result = outcomes.resultAfter reply := by
  cases reported with
  | suppressed failed => exact absurd (.head _) heeded
  | written degradedAt availableAt reply =>
      refine ⟨_, degradedAt, availableAt, reply, (List.append_assoc outcomes.inquiry
        [⟨.now, degradedAt⟩, ⟨.now, availableAt⟩, ⟨.observe _, ()⟩, ⟨.observe _, ()⟩] [_]).symm, ?_,
        rfl⟩
      intro exchange member
      unfold Outcomes.inquiry at member
      split at member <;> simp at member <;> rcases member with rfl | rfl | rfl | rfl | rfl <;>
        exact id

theorem not_atResource_of_phase {question : Call} (notOpening : question.phase ≠ .opening)
    (notReport : question.phase ≠ .report) : ¬ AtResource question := by
  intro here
  cases question <;> cases here <;> contradiction

/-- A managed cycle ends with writing its report, and does nothing else at the resource but to read
its instruction. -/
theorem exists_transcript {prober : Bool} (run : ManagedRun prober lists.resolve)
    (heeded : ⟨.isShuttingDown, true⟩ ∉ run.transcript) :
    ∃ working degradedAt availableAt reply, run.transcript = ⟨.readMode, .ok .managed⟩ :: (working ++
        [⟨.writeConditions [run.outcomes.degraded degradedAt, run.outcomes.available availableAt],
          reply⟩]) ∧
      (∀ exchange ∈ working, ¬ AtResource exchange.question) ∧
      run.result = run.outcomes.resultAfter reply := by
  have going : ⟨.isShuttingDown, true⟩ ∉ run.reporting := by
    intro member
    exact heeded (.tail _ (.tail _ ((run.mem_exchanges_iff _).mpr member)))
  obtain ⟨quiet, degradedAt, availableAt, reply, reporting, harmless, result⟩ :=
    exists_written run.reported going
  refine ⟨⟨.listManaged, .ok lists⟩ :: (run.part .deletion ++ (run.part .gate ++
    (run.part .application ++ (run.part .verification ++ quiet)))), degradedAt, availableAt, reply,
    ?_, ?_, result⟩
  · have report : run.part .report = _ := reporting
    rw [ManagedRun.transcript, run.exchanges_eq, report]
    simp only [List.cons_append, List.append_assoc]
  · have apart : ∀ phase : Phase, phase ≠ .opening → phase ≠ .report →
        ∀ exchange ∈ run.part phase, ¬ AtResource exchange.question := by
      intro phase notOpening notReport exchange member
      have within := run.within_part phase exchange member
      exact not_atResource_of_phase (within ▸ notOpening) (within ▸ notReport)
    intro exchange member
    rcases List.mem_cons.mp member with rfl | member
    · exact id
    · simp only [List.mem_append] at member
      rcases member with member | member | member | member | member
      · exact apart .deletion (by decide) (by decide) exchange member
      · exact apart .gate (by decide) (by decide) exchange member
      · exact apart .application (by decide) (by decide) exchange member
      · exact apart .verification (by decide) (by decide) exchange member
      · exact harmless exchange member

theorem distinct_types (outcomes : Outcomes) (degradedAt availableAt : String) :
    ([outcomes.degraded degradedAt, outcomes.available availableAt].map Condition.type).Nodup := by
  rw [List.map_cons, List.map_singleton, outcomes.degraded_type, outcomes.available_type]
  decide

theorem went {prober : Bool} {before : Premises}
    (managed : ((surroundings.answer lists .readMode).run before).1 = .ok .managed)
    (heeded : ⟨.isShuttingDown, true⟩ ∉
      (perform (surroundings.answer lists) prober before).transcript) :
    ∃ run : ManagedRun prober lists.resolve,
      Went surroundings before run (perform (surroundings.answer lists) prober before) := by
  obtain ⟨run, transcript, result⟩ := exists_managedRun prober managed
  obtain ⟨read, operator, addressed, held, -⟩ := Server.exists_of_readMode managed
  have followed : Follows (surroundings.answer lists) before
      (perform (surroundings.answer lists) prober before).transcript
      (perform (surroundings.answer lists) prober before).state :=
    Interaction.follows_transcriptIn (sync prober) before
  generalize perform (surroundings.answer lists) prober before = performance at *
  obtain ⟨ran, ended, state⟩ := performance
  dsimp only at transcript result heeded followed
  subst transcript result
  obtain ⟨working, degradedAt, availableAt, reply, same, elsewhere, reported⟩ :=
    exists_transcript run heeded
  have told := told_of_follows followed
  have served := serves_of_follows followed
  rw [same] at followed
  cases followed with
  | @cons _ _ _ middle _ _ looked followed =>
      obtain ⟨later, worked, wrote⟩ := Interaction.follows_append_iff.mp followed
      -- the resource is as it was read when the report is written
      have first : middle.2 = before.2.noted read := by
        have moved := congrArg (fun ran => ran.2.2) looked
        exact moved.symm.trans (congrArg Prod.snd (Server.run_readMode addressed held))
      have unpatched : (before.2.noted read).patches = before.2.patches := by
        obtain ⟨-, target, -, rfl⟩ := Cluster.request_of_read addressed
        exact before.2.patches_noted _
      obtain ⟨resource, patches⟩ := site_of_follows worked elsewhere
      rw [first] at resource patches
      have heldLater : later.2.read = .ok operator := by
        unfold Site.read
        rw [resource]
        exact held
      obtain ⟨after, accepted, written⟩ := Server.run_writeConditions addressed heldLater
        (distinct_types run.outcomes degradedAt availableAt)
      cases wrote with
      | cons answered ended =>
          cases ended
          have replied := congrArg Prod.fst answered
          have reached := congrArg (fun ran => ran.2.2) answered
          obtain rfl : Except.ok () = reply := (congrArg Prod.fst accepted).symm.trans replied
          obtain rfl : after = state.2 := (congrArg Prod.snd accepted).symm.trans reached
          refine ⟨run, rfl, reported, served.1.2.2, served.2, ?_, operator, degradedAt,
            availableAt, held, ?_⟩
          · exact fun exchange member => told exchange (.tail _ (.tail _ member))
          · have same := patches.trans unpatched
            exact ⟨fun upToDate => ⟨(written.upToDate upToDate).1.trans resource,
              (written.upToDate upToDate).2.trans same⟩, same ▸ written.once, written.said⟩

end Surroundings

/-! ## Two cycles -/

theorem upToDate_at {operator : Operator} {outcomes : Outcomes} {degradedAt availableAt : String}
    (current : Cluster.UpToDate operator
      [outcomes.degraded degradedAt, outcomes.available availableAt])
    (degradedLater availableLater : String) :
    Cluster.UpToDate operator
      [outcomes.degraded degradedLater, outcomes.available availableLater] := by
  have untimed : ∀ {existing : List Condition} {first last : Condition},
      first.untimed = last.untimed → Condition.Says existing first →
        Condition.Says existing last := by
    intro existing first last same said
    obtain ⟨stored, found, status, reason, message⟩ := said
    obtain ⟨type, sameStatus, -, sameReason, sameMessage⟩ := Condition.mk.inj same
    exact ⟨stored, type ▸ found, status.trans sameStatus, reason.trans sameReason,
      message.trans sameMessage⟩
  obtain ⟨said, observed⟩ := current
  obtain ⟨degraded, rest⟩ := List.forall_mem_cons.mp said
  obtain ⟨available, -⟩ := List.forall_mem_cons.mp rest
  refine ⟨List.forall_mem_cons.mpr ⟨untimed ?_ degraded, List.forall_mem_cons.mpr
    ⟨untimed ?_ available, by simp⟩⟩, observed⟩
  · rw [outcomes.untimed_degraded, outcomes.untimed_degraded]
  · rw [outcomes.untimed_available, outcomes.untimed_available]

/-- A cycle did not fail to apply anything. -/
def AppliesAll (transcript : Transcript calls) : Prop :=
  ∀ desired failure, ⟨.apply desired, .error failure⟩ ∉ transcript

namespace ManagedRun

variable {prober : Bool} {lists other : ManagedRegistrations}

theorem refusals_eq_nil (run : ManagedRun prober lists.resolve)
    (applies : AppliesAll run.transcript) :
    run.attempts.filterMap Attempt.failure = [] :=
  run.refusals_transcript.symm.trans ((refusals_eq_nil_iff _).mpr applies)

/-- A cycle that comes after another one with the same registrations changes nothing and has the same
outcomes. Their order may differ as long as nothing was refused. -/
theorem agree_of_perm {once : ManagedRun prober lists.resolve}
    {again : ManagedRun prober other.resolve} {store : World.Store} (served : store.Serves once.exchanges)
    (servedAgain : (store.after once.exchanges).Serves again.exchanges)
    (disabled : other.resolve.disabled = lists.resolve.disabled)
    (enabled : other.resolve.enabled.Perm lists.resolve.enabled)
    (ordered : other.resolve.enabled = lists.resolve.enabled ∨
      once.attempts.filterMap Attempt.failure = [])
    (answer : again.answer = once.answer) {missing : List String}
    (told : ∀ reply, ⟨.probe (groupVersions lists.resolve.enabled), reply⟩ ∈ once.verifying →
      reply = missing)
    (toldAgain : ∀ reply, ⟨.probe (groupVersions other.resolve.enabled), reply⟩ ∈ again.verifying →
      reply = missing) :
    (store.after once.exchanges).after again.exchanges = store.after once.exchanges ∧
      again.outcomes = once.outcomes := by
  have registrations : (again.attempts.map Attempt.registration).Perm
      (once.attempts.map Attempt.registration) := by
    rw [again.gated.registrations_eq, once.gated.registrations_eq, answer]
    split
    · exact enabled
    · exact List.Perm.refl _
  refine ⟨once.after_eq_self served servedAgain disabled registrations.subset, ?_⟩
  have leftovers : again.deletions.filterMap Deletion.failure =
      once.deletions.filterMap Deletion.failure :=
    filterMap_eq_of_map_eq (once.deletions_eq served)
      (disabled ▸ again.deletions_eq servedAgain)
      fun name member => (once.repeats served name member).failure
  have gated := again.gated
  rw [leftovers, answer] at gated
  -- what an attempt comes to depends on its registration alone
  have alike := once.attempts_alike served again
  have attempts := once.attempts_eq served
  have attemptsAgain := again.attempts_eq servedAgain
  generalize (store.after (once.part .deletion)).attemptOf = first at *
  generalize ((store.after once.exchanges).after (again.part .deletion)).attemptOf = last at *
  have selected : ∀ {β : Type} {select : Attempt → Option β},
      (∀ registration, select (last registration) = select (first registration)) →
        (again.attempts.filterMap select).Perm (once.attempts.filterMap select) := by
    intro β select same
    have later : again.attempts.filterMap select =
        (again.attempts.map Attempt.registration).filterMap (select ∘ first) := by
      rw [← show select ∘ last = select ∘ first from funext same, ← List.filterMap_map,
        ← attemptsAgain]
    have earlier : once.attempts.filterMap select =
        (once.attempts.map Attempt.registration).filterMap (select ∘ first) := by
      rw [← List.filterMap_map, ← attempts]
    rw [later, earlier]
    exact registrations.filterMap _
  refine once.gated.agree gated ?_ (selected fun registration => (alike registration).2) told
    toldAgain
  rcases ordered with same | unrefused
  · have registrations : again.attempts.map Attempt.registration =
        once.attempts.map Attempt.registration := by
      rw [again.gated.registrations_eq, once.gated.registrations_eq, answer, same]
    exact filterMap_eq_of_map_eq attempts (registrations ▸ attemptsAgain) fun registration _ =>
      (alike registration).1
  · have refusals := selected fun registration => (alike registration).1
    rw [unrefused] at refusals ⊢
    exact refusals.eq_nil

end ManagedRun

namespace Surroundings

variable {surroundings : Surroundings} {prober : Bool} {first lists : ManagedRegistrations}
  {start before : Premises}

/-- The lists of a later cycle are those of the first one. The enabled registrations may come in
another order, if their names are distinct and the first cycle has applied all of them. -/
def Relisted (first lists : ManagedRegistrations) (transcript : Transcript calls) : Prop :=
  lists = first ∨ (first.Reordered lists ∧ AppliesAll transcript)

/-- A later cycle sends no patch, leaves the resource with its times and the registrations as they
are, and has the same result. -/
structure Quiet (once later : Performance Premises) : Prop where
  unpatched : later.state.2.patches = once.state.2.patches
  resource : later.state.2.resource = once.state.2.resource
  store : later.state.1 = once.state.1
  result : later.result = once.result

theorem quiet_of_went {once : ManagedRun prober first.resolve}
    {again : ManagedRun prober lists.resolve} {performance later : Performance Premises}
    (went : surroundings.Went start once performance)
    (wentAgain : surroundings.Went before again later)
    (relisted : Relisted first lists performance.transcript)
    (store : before.1 = performance.state.1)
    (resource : before.2.resource = performance.state.2.resource)
    (patches : before.2.patches = performance.state.2.patches) : Quiet performance later := by
  have servedAgain := wentAgain.served
  rw [store, went.store] at servedAgain
  have disabled : lists.resolve.disabled = first.resolve.disabled := by
    rcases relisted with rfl | ⟨reordered, -⟩
    · rfl
    · exact reordered.disabled_resolve
  have enabled : lists.resolve.enabled.Perm first.resolve.enabled := by
    rcases relisted with rfl | ⟨reordered, -⟩
    · exact List.Perm.refl _
    · exact reordered.enabled_resolve
  have ordered : lists.resolve.enabled = first.resolve.enabled ∨
      once.attempts.filterMap Attempt.failure = [] := by
    rcases relisted with rfl | ⟨-, applies⟩
    · exact .inl rfl
    · rw [went.transcript] at applies
      exact .inr (once.refusals_eq_nil applies)
  have answered : ∀ {lists : ManagedRegistrations} {before : Premises}
      {performance : Performance Premises} {run : ManagedRun prober lists.resolve},
      surroundings.Went before run performance →
        run.answer = surroundings.check lists.resolve.enabled ∧
        ∀ reply, ⟨.probe (groupVersions lists.resolve.enabled), reply⟩ ∈ run.verifying →
          reply = surroundings.probe (groupVersions lists.resolve.enabled) := by
    intro lists before performance run went
    exact ⟨went.told ⟨.check _, run.answer⟩ ((run.mem_exchanges_iff _).mpr (.head _)),
      fun reply member => went.told ⟨.probe _, reply⟩ ((run.mem_exchanges_iff _).mpr member)⟩
  obtain ⟨answer, told⟩ := answered went
  obtain ⟨answerAgain, toldAgain⟩ := answered wentAgain
  rw [groupVersions_perm enabled] at toldAgain
  obtain ⟨stable, outcomes⟩ := ManagedRun.agree_of_perm went.served servedAgain disabled enabled
    ordered (answerAgain.trans ((surroundings.check_perm enabled).trans answer.symm)) told
    (by rwa [groupVersions_perm enabled])
  obtain ⟨_, _, _, _, ⟨-, -, operator, held, -, current⟩⟩ := went.written
  obtain ⟨operatorAgain, degradedAt, availableAt, heldAgain, written⟩ := wentAgain.written
  have same : before.2.read = performance.state.2.read := by
    unfold Site.read
    rw [resource]
  obtain rfl : operatorAgain = operator :=
    Except.ok.inj (heldAgain.symm.trans (same.trans held))
  rw [outcomes] at written
  obtain ⟨kept, unpatched⟩ := written.upToDate (upToDate_at current degradedAt availableAt)
  refine ⟨unpatched.trans patches, kept.trans resource, ?_, ?_⟩
  · rw [wentAgain.store, store, went.store, stable]
  · rw [wentAgain.result, went.result, outcomes]

theorem managed_of_went {once : ManagedRun prober first.resolve}
    {performance : Performance Premises}
    (managed : ((surroundings.answer first .readMode).run start).1 = .ok .managed)
    (went : surroundings.Went start once performance)
    (resource : before.2.resource = performance.state.2.resource) :
    ((surroundings.answer lists .readMode).run before).1 = .ok .managed := by
  obtain ⟨read, operator, addressed, held, instructed⟩ := Server.exists_of_readMode managed
  obtain ⟨same, _, _, heldSame, ⟨-, -, later, heldLater, spec, -⟩⟩ := went.written
  obtain rfl : operator = same := Except.ok.inj (held.symm.trans heldSame)
  have heldBefore : before.2.read = .ok later := by
    unfold Site.read at heldLater ⊢
    rw [resource, heldLater]
  have told := congrArg Prod.fst (Server.run_readMode addressed heldBefore)
  rw [spec, instructed] at told
  exact told

/-- Whatever the cycles come to and whatever the clock shows, of consecutive cycles around which
nothing changes only the first one can write its report, and no later one moves a time in it. -/
theorem steady_state_is_not_written_again {later : List ManagedRegistrations}
    (managed : ((surroundings.answer first .readMode).run start).1 = .ok .managed)
    (relisted : ∀ lists ∈ later,
      Relisted first lists (perform (surroundings.answer first) prober start).transcript)
    (heeded : ∀ cycle ∈ surroundings.cycles prober (first :: later) start,
      ⟨.isShuttingDown, true⟩ ∉ cycle.transcript) :
    let once := perform (surroundings.answer first) prober start
    once.state.2.patches ≤ start.2.patches + 1 ∧
      ∀ cycle ∈ surroundings.cycles prober later once.state, Quiet once cycle := by
  intro once
  obtain ⟨heededOnce, heededLater⟩ := List.forall_mem_cons.mp heeded
  obtain ⟨run, went⟩ := went managed heededOnce
  refine ⟨?_, ?_⟩
  · obtain ⟨_, _, _, _, written⟩ := went.written
    exact written.once
  · -- every cycle starts from the premises that the first one has left
    have quiet : ∀ before : Premises, before.1 = once.state.1 →
        before.2.resource = once.state.2.resource → before.2.patches = once.state.2.patches →
        (∀ cycle ∈ surroundings.cycles prober later before,
          ⟨.isShuttingDown, true⟩ ∉ cycle.transcript) →
          ∀ cycle ∈ surroundings.cycles prober later before, Quiet once cycle := by
      clear heededLater heeded
      induction later with
      | nil =>
          intro before _ _ _ _ cycle member
          cases member
      | cons lists rest ih =>
          intro before store resource patches heeded
          obtain ⟨heededHere, heededRest⟩ := List.forall_mem_cons.mp heeded
          obtain ⟨here, relistedRest⟩ := List.forall_mem_cons.mp relisted
          obtain ⟨again, wentAgain⟩ :=
            Surroundings.went (managed_of_went managed went resource) heededHere
          have quiet := quiet_of_went went wentAgain here store resource patches
          exact List.forall_mem_cons.mpr ⟨quiet, ih relistedRest _ quiet.store quiet.resource
            quiet.unpatched heededRest⟩
    exact quiet once.state rfl rfl rfl heededLater

theorem heeded_of_going (going : ∀ ticks, surroundings.stopping ticks = false)
    (later : List ManagedRegistrations) (start : Premises) :
    ∀ cycle ∈ surroundings.cycles prober later start,
      ⟨.isShuttingDown, true⟩ ∉ cycle.transcript := by
  induction later generalizing start with
  | nil =>
      intro cycle member
      cases member
  | cons lists rest ih =>
      refine List.forall_mem_cons.mpr ⟨fun asked => ?_, ih _⟩
      obtain ⟨ticks, told⟩ := told_of_follows
        (Interaction.follows_transcriptIn (sync prober) start) _ asked
      exact absurd (told.trans (going ticks)) (by decide)

/-- A server that keeps no marks, a clock that never stands still, and a gate that is open. -/
def sample : Surroundings where
  server :=
    { name := "cluster", clock := fun ticks => "10:0" ++ toString ticks, mark := id
      marked := fun readable => ⟨_, readable, rfl⟩ }
  check _ := .ok true
  check_perm _ := rfl
  probe _ := []
  stopping _ := false

/-- Two versions of which none is served yet, and an old one that cannot be deleted. -/
def samplePremises : Premises :=
  ({ objects := World.Objects.ofList [sampleRegistration "v1alpha1"]
     deleteFailures := [("v1alpha1.metrics.example.io", .io "connection reset")]
     availability :=
       ["v1", "v2"].map fun version => (version ++ ".metrics.example.io",
         [⟨"Available", .false, none, "MissingEndpoints", "no endpoints for " ++ version⟩]) },
    { resource := (Operator.named "cluster").toJson.members })

/-- The first cycle reports the failures; the later ones meet them again, in another order, and
report nothing. -/
theorem steady_state_is_not_written_again_sample :
    let first : ManagedRegistrations :=
      ⟨[sampleRegistration "v1", sampleRegistration "v2"], [sampleRegistration "v1alpha1"]⟩
    let other : ManagedRegistrations :=
      ⟨[sampleRegistration "v2", sampleRegistration "v1"], [sampleRegistration "v1alpha1"]⟩
    let once := perform (sample.answer first) true samplePremises
    once.state.2.patches = 1 ∧
      (∀ cycle ∈ sample.cycles true [other, first] once.state, Quiet once cycle) := by
  intro first other once
  have reordered : first.Reordered other := ⟨rfl, by decide, List.Perm.swap _ _ _⟩
  have applied : (refusals once.transcript).isEmpty = true := by decide +kernel
  have applies : AppliesAll once.transcript :=
    (refusals_eq_nil_iff _).mp (List.isEmpty_iff.mp applied)
  refine ⟨by decide +kernel, (steady_state_is_not_written_again rfl ?_
    (heeded_of_going (fun _ => rfl) _ _)).2⟩
  simpa using ⟨.inr ⟨reordered, applies⟩, .inl rfl⟩

end Surroundings

end Registrar.Cycle
