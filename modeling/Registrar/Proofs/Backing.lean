import Registrar.Proofs.Gate
import Registrar.Proofs.Reporting
/-!
# The services behind what is applied

The gate reads the service of a registration where its reference says that it is, or at home if the
reference leaves the namespace empty. What is applied carries the reference of its entry with nothing
but the port filled in. So the service that was found ready is the one that is registered wherever
the reference has a namespace of its own. An empty namespace stays empty, and nobody has read the
endpoints under it.
-/

set_option autoImplicit false

namespace Registrar

namespace Readiness.ServiceKey

/-- The key that a reference spells out itself. -/
def literal (service : ServiceReference) : ServiceKey where
  namespaceName := service.namespaceName
  name := service.name

theorem ofReference_withDefaults (home : String) (service : ServiceReference) :
    ofReference home service.withDefaults = ofReference home service :=
  rfl

theorem ofReference_eq_literal_iff (home : String) (service : ServiceReference) :
    ofReference home service = literal service ↔ service.namespaceName ≠ "" ∨ home = "" := by
  unfold ofReference literal
  by_cases empty : service.namespaceName = "" <;> simp [empty]

theorem namespaceName_ofReference_ne {home : String} (named : home ≠ "")
    (service : ServiceReference) : (ofReference home service).namespaceName ≠ "" := by
  unfold ofReference
  by_cases empty : service.namespaceName = "" <;> simp [empty, named]

end Readiness.ServiceKey

namespace Cycle

open Readiness (ServiceKey Ready)

/-- The endpoints under the key were read, and there was a ready address. -/
def FoundReady (key : ServiceKey) (past : Transcript gateCalls) : Prop :=
  ∃ reply, ⟨.read key, reply⟩ ∈ past ∧ Ready reply

/-- What a cycle knows of the service that an applied object refers to. -/
structure Backed (home : String) (transcript past : Transcript gateCalls) (desired : Registration)
    (carried : ServiceReference) : Prop where
  /-- The reference is the one of an enabled entry, with a port. -/
  entry : ∃ lists, ⟨.call .listManaged, .ok lists⟩ ∈ past ∧
    ∃ entry ∈ lists.resolve.enabled, desired = entry.withDefaults ∧
      ∃ service, entry.spec.service = some service ∧
        carried = { service with port := some (service.port.getD 443) }
  /-- The service is ready at home, if the reference leaves it open where it is. -/
  resolved : FoundReady (.ofReference home carried) past
  /-- It is ready where the object says that it is. -/
  spelled : carried.namespaceName ≠ "" ∨ home = "" → FoundReady (.literal carried) past
  /-- Otherwise the service that is registered is never looked at. -/
  unread : carried.namespaceName = "" → home ≠ "" →
    ∀ reply, ⟨.read (.literal carried), reply⟩ ∉ transcript

namespace ManagedRun

variable {prober : Bool} {lists : ManagedRegistrations}

/-- What is applied is an enabled entry with its defaults. -/
theorem exists_entry_of_apply (run : ManagedRun prober lists.resolve)
    (opened : run.answer = .ok true) {desired : Registration} {reply : Except Failure Applied}
    (member : ⟨.apply desired, reply⟩ ∈ run.transcript) :
    ∃ entry ∈ lists.resolve.enabled, desired = entry.withDefaults := by
  have applied := List.mem_map_of_mem (f := Prod.fst) ((mem_applications _ _ _).mpr member)
  rw [run.applied_of_opened opened] at applied
  obtain ⟨entry, enabled, same⟩ := List.mem_map.mp applied
  exact ⟨entry, enabled, same.symm⟩

end ManagedRun

/-- Nothing is read but services that references lead to from home. -/
theorem exists_service_of_read {home : String} {enabled : List Registration}
    {reads : Transcript Readiness.reading}
    (decided : (Readiness.check home enabled).Yields reads (.ok true))
    {read : Exchange Readiness.reading} (member : read ∈ reads) :
    ∃ service, read.question = ServiceKey.ofReference home service := by
  have asked := List.mem_map_of_mem (f := Exchange.question) member
  rw [((Readiness.checkServices_yields_open_iff _ _).mp decided).1] at asked
  obtain ⟨_, _, service, _, resolved⟩ := (Readiness.mem_backingServices home _ _).mp asked
  exact ⟨service, resolved.symm⟩

/-- For all lists and all endpoints: whatever is applied, its service was found ready before, as the
gate understands the reference. That is the service which the object refers to, unless it leaves the
namespace empty. -/
theorem backed_of_apply {home : String} {prober : Bool} {transcript : Transcript gateCalls}
    {result : Except Failure Unit} (yields : (endpointSync home prober).Yields transcript result)
    {before after : Transcript gateCalls} {desired : Registration}
    {reply : Except Failure Applied}
    (split : transcript = before ++ ⟨.call (.apply desired), reply⟩ :: after)
    {carried : ServiceReference} (refers : desired.spec.service = some carried) :
    Backed home transcript before desired carried := by
  obtain ⟨outer, run, made⟩ := (Interaction.yields_translate_iff _ _ _).mp yields
  have acts : Acts ⟨.call (.apply desired), reply⟩ := .inl ⟨desired, rfl⟩
  have member : ⟨.call (.apply desired), reply⟩ ∈ transcript :=
    split ▸ List.mem_append_right _ (.head _)
  rcases ((sync_yields_iff prober outer result).mp run).managed_or_idle with
    ⟨lists, managed, rfl⟩ | idle
  · obtain ⟨reads, decided, rfl⟩ := managed.exists_reads made
    have opened := managed.opened_of_exists_acts member acts
    obtain ⟨others, listed, cleared⟩ := ((managed.heeded decided).of_split split).cleared acts
    obtain rfl := managed.eq_of_listed (split ▸ List.mem_append_left _ listed)
    obtain ⟨entry, enabled, rfl⟩ :=
      managed.exists_entry_of_apply opened (managed.mem_transcript_of_call member)
    obtain ⟨service, given, rfl⟩ := Option.map_eq_some_iff.mp refers
    have ready : FoundReady (.ofReference home service.withDefaults) before := by
      rw [ServiceKey.ofReference_withDefaults]
      exact cleared entry enabled service given
    rw [opened] at decided
    refine ⟨⟨others, listed, entry, enabled, rfl, service, given, rfl⟩, ready, ?_, ?_⟩
    · intro own
      rwa [← (ServiceKey.ofReference_eq_literal_iff home service.withDefaults).mpr own]
    · intro empty named answer read
      obtain ⟨other, same⟩ := exists_service_of_read decided (managed.mem_reads_of_read read)
      refine ServiceKey.namespaceName_ofReference_ne named other ?_
      rw [← same]
      exact empty
  · obtain rfl := carriesOut_calls made fun exchange member => (idle exchange member).not_gate
    exact absurd acts (idle _ (mem_map_asCall.mp member)).not_acts

/-- A registration that names the namespace of its service. -/
def sampleNamed (port : Option Int32) : Registration :=
  { sampleRegistration "v2" with
    spec := { (sampleRegistration "v2").spec with
      service := some { namespaceName := "metrics", name := "metrics-server", port := port } } }

/-- A cycle that registers one service in two ways, with its namespace and without. -/
def sampleShared : Transcript gateCalls :=
  [⟨.call .readMode, .ok .managed⟩,
    ⟨.call .listManaged, .ok ⟨[sampleBacked none, sampleNamed none], []⟩⟩,
    ⟨.read ⟨"metrics", "metrics-server"⟩,
      .ok (some { subsets := some [{ addresses := some [{ ip := "10.0.0.7" }] }] })⟩,
    ⟨.call (.apply (sampleBacked (some 443))), .ok ⟨sampleBacked (some 443), true⟩⟩,
    ⟨.call (.observe (.apply true)), ()⟩,
    ⟨.call (.apply (sampleNamed (some 443))), .ok ⟨sampleNamed (some 443), false⟩⟩,
    ⟨.call (.observe (.apply false)), ()⟩, ⟨.call .now, ""⟩, ⟨.call .now, ""⟩,
    ⟨.call (.observe (.conditionStatus "RegistrationsDegraded" false)), ()⟩,
    ⟨.call (.observe (.conditionStatus "RegistrationsAvailable" true)), ()⟩,
    ⟨.call (.writeConditions [.notDegraded "", .available ""]), .ok ()⟩]

theorem sampleShared_yields : (endpointSync "metrics" false).Yields sampleShared (.ok ()) :=
  .ask (.ask (.ask (.ask (.ask (.ask (.ask (.ask (.ask (.ask (.ask (.ask (.done _))))))))))))

/-- The service that is registered with its namespace is the one that was found ready. -/
theorem backed_of_apply_named :
    let reference : ServiceReference := ⟨"metrics", "metrics-server", some 443⟩
    (endpointSync "metrics" false).Yields sampleShared (.ok ()) ∧
      sampleShared = sampleShared.take 5 ++
        ⟨.call (.apply (sampleNamed (some 443))), .ok ⟨sampleNamed (some 443), false⟩⟩ ::
          sampleShared.drop 6 ∧
      (sampleNamed (some 443)).spec.service = some reference ∧
      Backed "metrics" sampleShared (sampleShared.take 5) (sampleNamed (some 443)) reference :=
  ⟨sampleShared_yields, rfl, rfl, backed_of_apply sampleShared_yields rfl rfl⟩

/-- The one without it is registered although its endpoints were never read. -/
theorem apply_of_unread_service :
    (endpointSync "metrics" false).Yields sampleShared (.ok ()) ∧
      ⟨.call (.apply (sampleBacked (some 443))), .ok ⟨sampleBacked (some 443), true⟩⟩ ∈
        sampleShared ∧
      ∃ carried, (sampleBacked (some 443)).spec.service = some carried ∧
        ∀ reply, ⟨.read (.literal carried), reply⟩ ∉ sampleShared := by
  refine ⟨sampleShared_yields, .tail _ (.tail _ (.tail _ (.head _))), _, rfl, ?_⟩
  intro reply read
  simp [sampleShared, ServiceKey.literal] at read

end Cycle

end Registrar
