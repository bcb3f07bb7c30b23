import Registrar.Cluster.Cycle
import Registrar.Proofs.Cycle.Evidence
import Registrar.Proofs.Readiness
/-!
# The gate is all or nothing

The gate is decided by endpoints: it opens only after the endpoints of every service that an enabled
registration refers to were read and found ready. The reads are part of the cycle here, so that their
place among its calls can be told.
-/

set_option autoImplicit false

namespace Registrar

/-! ## Cycles that read endpoints -/

namespace Cycle

open Readiness (ServiceKey Ready)

/-- A call of a cycle whose gate is decided by endpoints, or a read of endpoints. -/
inductive GateCall where
  | call (question : Call)
  | read (key : ServiceKey)

abbrev GateCall.Reply : GateCall → Type
  | call question => question.Reply
  | read _ => Except Failure (Option Endpoints)

abbrev gateCalls : Signature where
  Question := GateCall
  Reply := GateCall.Reply

def readEndpoints (key : ServiceKey) : Interaction gateCalls (Except Failure (Option Endpoints)) :=
  .ask (.read key) .done

/-- Every call is made as it is, but in place of a check the endpoints are read. -/
def decideByEndpoints (home : String) : (question : Call) → Interaction gateCalls question.Reply
  | .check enabled => (Readiness.check home enabled).translate readEndpoints
  | question => .ask (.call question) .done

/-- One cycle whose gate is decided by endpoints. -/
def endpointSync (home : String) (prober : Bool) : Interaction gateCalls (Except Failure Unit) :=
  (sync prober).translate (decideByEndpoints home)

theorem decideByEndpoints_eq (home : String) {question : Call}
    (elsewhere : question.phase ≠ .gate) :
    decideByEndpoints home question = .ask (.call question) .done := by
  cases question <;> first | rfl | exact absurd rfl elsewhere

def carryOutInCluster (identity : Cluster.Identity) :
    (question : GateCall) → Cluster.Talk question.Reply
  | .call question => Cluster.carryOut identity question
  | .read key => Cluster.readEndpoints key

/-- A cycle in a cluster is such a cycle, with its calls and reads carried out there. -/
theorem cluster_cycle_eq (identity : Cluster.Identity) :
    Cluster.cycle identity =
      (endpointSync identity.home true).translate (carryOutInCluster identity) := by
  unfold Cluster.cycle endpointSync
  rw [Interaction.translate_translate]
  refine congrArg (sync true).translate (funext fun question => ?_)
  cases question with
  | check enabled =>
      refine Eq.trans ?_ (Interaction.translate_translate _ _).symm
      refine congrArg (Readiness.check identity.home enabled).translate (funext fun key => ?_)
      exact (Interaction.bind_done (Cluster.readEndpoints key)).symm
  | _ => exact (Interaction.bind_done (Cluster.carryOut identity _)).symm

def asCall : Exchange calls → Exchange gateCalls
  | ⟨question, reply⟩ => ⟨.call question, reply⟩

def asRead : Exchange Readiness.reading → Exchange gateCalls
  | ⟨key, reply⟩ => ⟨.read key, reply⟩

theorem carriesOut_reads {outer : Transcript Readiness.reading} {transcript : Transcript gateCalls}
    (carried : Interaction.CarriesOut readEndpoints outer transcript) :
    transcript = outer.map asRead :=
  carried.eq_map asRead fun _ _ inner => (Interaction.yields_request_iff _ inner _).mp

theorem carriesOut_calls {home : String} {outer : Transcript calls}
    {transcript : Transcript gateCalls}
    (carried : Interaction.CarriesOut (decideByEndpoints home) outer transcript)
    (elsewhere : ∀ exchange ∈ outer, exchange.question.phase ≠ .gate) :
    transcript = outer.map asCall := by
  refine carried.eq_map asCall fun exchange member inner answered => ?_
  rw [decideByEndpoints_eq home (elsewhere exchange member)] at answered
  exact (Interaction.yields_request_iff _ inner _).mp answered

/-! ## All or nothing -/

/-- An apply, or a question to discovery. -/
def Acts (exchange : Exchange gateCalls) : Prop :=
  (∃ desired, exchange.question = .call (.apply desired)) ∨
    ∃ versions, exchange.question = .call (.probe versions)

def IsRead (exchange : Exchange gateCalls) : Prop :=
  ∃ key, exchange.question = .read key

/-- The service of every enabled entry was read and found ready. -/
def Cleared (home : String) (enabled : List Registration) (past : Transcript gateCalls) : Prop :=
  ∀ entry ∈ enabled, ∀ service, entry.spec.service = some service →
    ∃ reply, ⟨.read (.ofReference home service), reply⟩ ∈ past ∧ Ready reply

/-- Every disabled entry was looked up, and deleted if a live object was there. -/
def Processed (disabled : List Registration) (past : Transcript gateCalls) : Prop :=
  ∀ entry ∈ disabled, ∃ found, ⟨.call (.cached entry.name), found⟩ ∈ past ∧
    ∀ existing, found = some existing → existing.metadata.deletionTimestamp = none →
      ∃ reply, ⟨.call (.delete entry.name), reply⟩ ∈ past

/-- What comes before an apply, a question to discovery, or a read of endpoints. -/
structure Heeded (home : String) (past : Transcript gateCalls) (exchange : Exchange gateCalls) :
    Prop where
  cleared : Acts exchange → ∃ lists, ⟨.call .listManaged, .ok lists⟩ ∈ past ∧
    Cleared home lists.resolve.enabled past
  processed : IsRead exchange → ∃ lists, ⟨.call .listManaged, .ok lists⟩ ∈ past ∧
    Processed lists.resolve.disabled past

theorem phase_of_acts {exchange : Exchange calls} (acts : Acts (asCall exchange)) :
    exchange.question.phase = .application ∨ exchange.question.phase = .verification := by
  obtain ⟨question, reply⟩ := exchange
  rcases acts with ⟨desired, same⟩ | ⟨versions, same⟩
  · cases same
    exact .inl rfl
  · cases same
    exact .inr rfl

theorem not_acts_asRead (exchange : Exchange Readiness.reading) : ¬ Acts (asRead exchange) := by
  intro acts
  rcases acts with ⟨desired, same⟩ | ⟨versions, same⟩ <;> cases same

theorem not_isRead_asCall (exchange : Exchange calls) : ¬ IsRead (asCall exchange) := by
  intro read
  obtain ⟨key, same⟩ := read
  cases same

/-- An exchange of the opening or of the deletions. -/
def Early (exchange : Exchange calls) : Prop :=
  exchange.question.phase = .opening ∨ exchange.question.phase = .deletion

theorem Early.not_gate {exchange : Exchange calls} (early : Early exchange) :
    exchange.question.phase ≠ .gate := by
  intro gate
  rcases early with phase | phase <;> exact absurd (gate.symm.trans phase) (by decide)

theorem Early.not_acts {exchange : Exchange calls} (early : Early exchange) :
    ¬ Acts (asCall exchange) := by
  intro acts
  rcases early with phase | phase <;> rcases phase_of_acts acts with other | other <;>
    exact absurd (phase.symm.trans other) (by decide)

theorem heeded_of_early {home : String} {outer : Transcript calls}
    (early : ∀ exchange ∈ outer, Early exchange) (past : Transcript gateCalls) :
    Transcript.Justified (Heeded home) past (outer.map asCall) := by
  refine Transcript.justified_of_extensions ?_
  intro exchange member later
  obtain ⟨inner, inside, rfl⟩ := List.mem_map.mp member
  exact ⟨fun acts => absurd acts (early inner inside).not_acts,
    fun read => absurd read (not_isRead_asCall inner)⟩

theorem mem_map_asCall {outer : Transcript calls} {question : Call} {reply : question.Reply} :
    ⟨.call question, reply⟩ ∈ outer.map asCall ↔ ⟨question, reply⟩ ∈ outer := by
  constructor
  · intro member
    obtain ⟨⟨other, answer⟩, inside, same⟩ := List.mem_map.mp member
    cases same
    exact inside
  · intro member
    exact List.mem_map_of_mem member

/-- A cycle that does not manage its lists has neither a gate nor applies. -/
theorem Course.managed_or_idle {prober : Bool} {transcript : Transcript calls}
    {result : Except Failure Unit} (course : Course prober transcript result) :
    (∃ (lists : ManagedRegistrations) (run : ManagedRun prober lists.resolve),
      transcript = run.transcript) ∨ ∀ exchange ∈ transcript, Early exchange := by
  cases course with
  | unread | unmanaged =>
      refine .inr (List.forall_mem_singleton.mpr (.inl rfl))
  | unknown | unlisted =>
      refine .inr (List.forall_mem_cons.mpr ⟨.inl rfl, List.forall_mem_singleton.mpr (.inl rfl)⟩)
  | @removed lists deletions names =>
      refine .inr (List.forall_mem_cons.mpr ⟨.inl rfl, List.forall_mem_cons.mpr ⟨.inl rfl, ?_⟩⟩)
      intro exchange member
      exact .inr (Within.flatMap Deletion.within deletions exchange member)
  | @managed lists run => exact .inl ⟨lists, run, rfl⟩

theorem cleared_of_reads {home : String} {enabled : List Registration}
    {reads : Transcript Readiness.reading}
    (decided : (Readiness.check home enabled).Yields reads (.ok true))
    {past : Transcript gateCalls} (known : ∀ exchange ∈ reads, asRead exchange ∈ past) :
    Cleared home enabled past := by
  intro entry member service backed
  obtain ⟨asked, ready⟩ := (Readiness.checkServices_yields_open_iff _ _).mp decided
  have key : ServiceKey.ofReference home service ∈ reads.map Exchange.question := by
    rw [asked]
    exact (Readiness.mem_backingServices home enabled _).mpr
      ⟨entry, member, service, backed, rfl⟩
  obtain ⟨⟨question, reply⟩, read, same⟩ := List.mem_map.mp key
  cases same
  exact ⟨reply, known _ read, ready _ read⟩

namespace ManagedRun

variable {prober : Bool} {lists : ManagedRegistrations}

/-- What a managed cycle does before the gate is asked. -/
def preparing (run : ManagedRun prober lists.resolve) : Transcript calls :=
  ⟨.readMode, .ok .managed⟩ :: ⟨.listManaged, .ok lists⟩ :: run.part .deletion

/-- What a managed cycle does after the gate has answered. -/
def acting (run : ManagedRun prober lists.resolve) : Transcript calls :=
  run.part .application ++ (run.part .verification ++ run.part .report)

theorem transcript_eq (run : ManagedRun prober lists.resolve) :
    run.transcript =
      run.preparing ++ ⟨.check lists.resolve.enabled, run.answer⟩ :: run.acting :=
  rfl

theorem early_of_mem_preparing (run : ManagedRun prober lists.resolve) :
    ∀ exchange ∈ run.preparing, Early exchange := by
  intro exchange member
  rcases List.mem_cons.mp member with rfl | member
  · exact .inl rfl
  rcases List.mem_cons.mp member with rfl | member
  · exact .inl rfl
  · exact .inr (run.within_part .deletion exchange member)

theorem phase_of_mem_acting (run : ManagedRun prober lists.resolve) :
    ∀ exchange ∈ run.acting, exchange.question.phase ≠ .gate := by
  intro exchange member
  simp only [acting, List.mem_append] at member
  rcases member with member | member | member <;>
    exact (run.within_part _).ne (by decide) exchange member

/-- In place of the check, the reads that decide it stand in the middle of a managed cycle. -/
theorem exists_reads {home : String} (run : ManagedRun prober lists.resolve)
    {transcript : Transcript gateCalls}
    (carried : Interaction.CarriesOut (decideByEndpoints home) run.transcript transcript) :
    ∃ reads, (Readiness.check home lists.resolve.enabled).Yields reads run.answer ∧
      transcript =
        run.preparing.map asCall ++ (reads.map asRead ++ run.acting.map asCall) := by
  rw [run.transcript_eq] at carried
  obtain ⟨before, rest, rfl, prepared, carried⟩ := carried.append_inv
  cases carried with
  | cons answered acted =>
      obtain ⟨reads, decided, read⟩ := (Interaction.yields_translate_iff _ _ _).mp answered
      have elsewhere : ∀ exchange ∈ run.preparing, exchange.question.phase ≠ .gate :=
        fun exchange member => (run.early_of_mem_preparing exchange member).not_gate
      refine ⟨reads, decided, ?_⟩
      rw [carriesOut_calls prepared elsewhere, carriesOut_reads read,
        carriesOut_calls acted run.phase_of_mem_acting]

theorem processed (run : ManagedRun prober lists.resolve) {past : Transcript gateCalls}
    (known : ∀ exchange ∈ run.preparing, asCall exchange ∈ past) :
    Processed lists.resolve.disabled past := by
  intro entry member
  have named : entry.name ∈ run.deletions.map Deletion.name := by
    rw [run.names]
    exact List.mem_map_of_mem member
  obtain ⟨deletion, taken, same⟩ := List.mem_map.mp named
  have done : ∀ exchange ∈ deletion.transcript, asCall exchange ∈ past := by
    intro exchange part
    exact known exchange (.tail _ (.tail _ (List.mem_flatMap.mpr ⟨deletion, taken, part⟩)))
  rw [← same]
  cases deletion with
  | absent name => exact ⟨none, done _ (.head _), fun _ found => nomatch found⟩
  | underway name existing deleting =>
      refine ⟨some existing, done _ (.head _), ?_⟩
      intro other found live
      cases found
      exact absurd ((existing.isDeleting_eq_false_iff).mpr live) (by simp [deleting])
  | issued name existing live reply =>
      exact ⟨some existing, done _ (.head _),
        fun _ _ _ => ⟨reply, done _ (.tail _ (.tail _ (.head _)))⟩⟩

theorem opened_of_acts (run : ManagedRun prober lists.resolve) {exchange : Exchange calls}
    (member : exchange ∈ run.acting) (acts : Acts (asCall exchange)) : run.answer = .ok true := by
  rcases run.gated.opened_or_closed with opened | ⟨unapplied, unverified⟩
  · exact opened
  · rw [acting, part, part, unapplied, unverified] at member
    have reported := run.within_part .report exchange member
    rcases phase_of_acts acts with phase | phase <;>
      exact absurd (reported.symm.trans phase) (by decide)

theorem heeded {home : String} (run : ManagedRun prober lists.resolve)
    {reads : Transcript Readiness.reading}
    (decided : (Readiness.check home lists.resolve.enabled).Yields reads run.answer) :
    Transcript.Justified (Heeded home) []
      (run.preparing.map asCall ++ (reads.map asRead ++ run.acting.map asCall)) := by
  have listed : ⟨.listManaged, .ok lists⟩ ∈ run.preparing := .tail _ (.head _)
  simp only [Transcript.justified_append]
  refine ⟨?_, ?_, ?_⟩
  · exact heeded_of_early run.early_of_mem_preparing []
  · refine Transcript.justified_of_extensions ?_
    intro exchange member later
    obtain ⟨inner, inside, rfl⟩ := List.mem_map.mp member
    refine ⟨fun acts => absurd acts (not_acts_asRead inner), fun _ => ⟨lists, ?_, ?_⟩⟩
    · exact List.mem_append_left _ (List.mem_map_of_mem listed)
    · refine run.processed ?_
      intro before earlier
      exact List.mem_append_left _ (List.mem_map_of_mem earlier)
  · refine Transcript.justified_of_extensions ?_
    intro exchange member later
    obtain ⟨inner, inside, rfl⟩ := List.mem_map.mp member
    refine ⟨fun acts => ⟨lists, ?_, ?_⟩, fun read => absurd read (not_isRead_asCall inner)⟩
    · exact List.mem_append_left _ (List.mem_append_left _ (List.mem_map_of_mem listed))
    · rw [run.opened_of_acts inside acts] at decided
      refine cleared_of_reads decided ?_
      intro read before
      exact List.mem_append_left _ (List.mem_append_right _ (List.mem_map_of_mem before))

theorem opened_of_exists_acts (run : ManagedRun prober lists.resolve)
    {reads : Transcript Readiness.reading}
    {exchange : Exchange gateCalls}
    (member : exchange ∈ run.preparing.map asCall ++ (reads.map asRead ++ run.acting.map asCall))
    (acts : Acts exchange) : run.answer = .ok true := by
  rcases List.mem_append.mp member with member | member
  · obtain ⟨inner, inside, rfl⟩ := List.mem_map.mp member
    exact absurd acts (run.early_of_mem_preparing inner inside).not_acts
  rcases List.mem_append.mp member with member | member
  · obtain ⟨inner, _, rfl⟩ := List.mem_map.mp member
    exact absurd acts (not_acts_asRead inner)
  · obtain ⟨inner, inside, rfl⟩ := List.mem_map.mp member
    exact run.opened_of_acts inside acts

/-- The calls of a cycle that reads endpoints are those of the cycle. -/
theorem mem_transcript_of_call (run : ManagedRun prober lists.resolve)
    {reads : Transcript Readiness.reading} {question : Call} {reply : question.Reply}
    (member : ⟨.call question, reply⟩ ∈
      run.preparing.map asCall ++ (reads.map asRead ++ run.acting.map asCall)) :
    ⟨question, reply⟩ ∈ run.transcript := by
  rw [run.transcript_eq]
  rcases List.mem_append.mp member with member | member
  · exact List.mem_append_left _ (mem_map_asCall.mp member)
  rcases List.mem_append.mp member with member | member
  · obtain ⟨inner, _, same⟩ := List.mem_map.mp member
    cases same
  · exact List.mem_append_right _ (.tail _ (mem_map_asCall.mp member))

theorem mem_reads_of_read (run : ManagedRun prober lists.resolve)
    {reads : Transcript Readiness.reading} {key : ServiceKey}
    {reply : Except Failure (Option Endpoints)}
    (member : ⟨.read key, reply⟩ ∈
      run.preparing.map asCall ++ (reads.map asRead ++ run.acting.map asCall)) :
    ⟨key, reply⟩ ∈ reads := by
  rcases List.mem_append.mp member with member | member
  · obtain ⟨inner, _, same⟩ := List.mem_map.mp member
    cases same
  rcases List.mem_append.mp member with member | member
  · obtain ⟨inner, inside, same⟩ := List.mem_map.mp member
    cases same
    exact inside
  · obtain ⟨inner, _, same⟩ := List.mem_map.mp member
    cases same

theorem eq_of_listed {others : ManagedRegistrations} (run : ManagedRun prober lists.resolve)
    {reads : Transcript Readiness.reading}
    (listed : ⟨.call .listManaged, .ok others⟩ ∈
      run.preparing.map asCall ++ (reads.map asRead ++ run.acting.map asCall)) :
    others = lists := by
  have known := run.mem_transcript_of_call listed
  have listing : others ∈ listings run.transcript := List.mem_filterMap.mpr ⟨_, known, rfl⟩
  rw [run.listings_transcript] at listing
  exact List.mem_singleton.mp listing

end ManagedRun

/-- A registration that is answered by a service of the operator's own namespace. -/
def sampleBacked (port : Option Int32) : Registration :=
  { sampleRegistration "v1" with
    spec := { (sampleRegistration "v1").spec with
      service := some { namespaceName := "", name := "metrics-server", port := port } } }

end Cycle

end Registrar
