import Registrar.Proofs.ByteOrder
import Registrar.Proofs.Cycle.Order
/-!
# The first service that is not ready decides

The services behind a list of registrations are read in the order of their keys, and no further than
to the first one that is not ready. So what is read and what is answered depends on nothing but the
keys: not on the order of the registrations, and not on how often one is listed.
-/

set_option autoImplicit false

namespace Registrar.Readiness

open Text (bytes)

/-- One key comes before another one: by its namespace, and within a namespace by its name. -/
def ServiceKey.Precedes (left right : ServiceKey) : Prop :=
  bytes left.namespaceName < bytes right.namespaceName ∨
    left.namespaceName = right.namespaceName ∧ bytes left.name < bytes right.name

/-- The keys of all services that registrations refer to, each once and in order. -/
structure KeysInOrder (home : String) (registrations : List Registration)
    (keys : List ServiceKey) : Prop where
  increasing : keys.Pairwise ServiceKey.Precedes
  mem_iff : ∀ key, key ∈ keys ↔
    ∃ registration ∈ registrations, ∃ service, registration.spec.service = some service ∧
      key.namespaceName =
        (if service.namespaceName = "" then home else service.namespaceName) ∧
      key.name = service.name

/-! ## Keys in order -/

theorem ServiceKey.precedes_iff (left right : ServiceKey) :
    left.Precedes right ↔ ServiceKey.compare left right = .lt :=
  (Text.compare_then_compare_eq_lt_iff _ _ _ _).symm

theorem keysInOrder_backingServices (home : String) (registrations : List Registration) :
    KeysInOrder home registrations (backingServices home registrations) := by
  constructor
  · refine List.Pairwise.imp ?_ (Sorted.pairwise_ofList _)
    intro left right less
    exact (left.precedes_iff right).mpr less
  · intro key
    rw [mem_backingServices]
    refine exists_congr fun registration => and_congr_right fun _ =>
      exists_congr fun service => and_congr_right fun _ => ?_
    obtain ⟨namespaceName, name⟩ := key
    rw [ServiceKey.ofReference, ServiceKey.mk.injEq]
    exact and_congr eq_comm eq_comm

/-- Only which registrations there are makes a difference. -/
theorem check_congr (home : String) {registrations others : List Registration}
    (same : ∀ registration, registration ∈ others ↔ registration ∈ registrations) :
    check home others = check home registrations := by
  unfold check backingServices
  rw [Sorted.ofList_congr]
  intro key
  simp only [List.mem_filterMap, same]

/-! ## Readers -/

/-- The answer for a reader that replies to each key in its own way, whenever it is asked. -/
def answerBy (reader : ServiceKey → Except Failure (Option Endpoints)) (home : String)
    (registrations : List Registration) : Except Failure Bool :=
  Id.run ((check home registrations).interpret reader)

variable (reader : ServiceKey → Except Failure (Option Endpoints)) (home : String)

theorem run_checkServices_eq_open_iff (keys : List ServiceKey) :
    Id.run ((checkServices keys).interpret reader) = .ok true ↔ ∀ key ∈ keys, Ready (reader key) := by
  induction keys with
  | nil => exact iff_of_true rfl (List.forall_mem_nil _)
  | cons key rest ih =>
      obtain ⟨next, unfolded, onward, ended⟩ := checkServices_cons key rest
      have ran : Id.run ((checkServices (key :: rest)).interpret reader) =
          Id.run ((next (reader key)).interpret reader) := by
        rw [unfolded]
        rfl
      rw [ran, List.forall_mem_cons]
      by_cases ready : Ready (reader key)
      · rw [onward _ ready, ih]
        exact (and_iff_right ready).symm
      · rw [ended _ ready]
        exact iff_of_false (shutBy_ne_open _) fun all => ready all.1

theorem answerBy_eq_open_iff (registrations : List Registration) :
    answerBy reader home registrations = .ok true ↔
      ∀ registration ∈ registrations, ∀ service, registration.spec.service = some service →
        Ready (reader (.ofReference home service)) := by
  unfold answerBy check
  rw [run_checkServices_eq_open_iff]
  constructor
  · intro ready registration member service backed
    exact ready _ ((mem_backingServices _ _ _).mpr ⟨registration, member, service, backed, rfl⟩)
  · intro ready key member
    obtain ⟨registration, listed, service, backed, rfl⟩ := (mem_backingServices _ _ _).mp member
    exact ready registration listed service backed

/-- The services are read in the order of their keys, each once, up to the first one that is not ready;
that one decides the answer. -/
theorem first_unready_decides (registrations : List Registration) :
    (∃ keys, KeysInOrder home registrations keys ∧
      ∀ transcript answer,
        (check home registrations).Yields transcript answer ↔ DecidedBy keys transcript answer) ∧
    (∀ others, (∀ registration, registration ∈ others ↔ registration ∈ registrations) →
      check home others = check home registrations) ∧
    ∀ reader : ServiceKey → Except Failure (Option Endpoints),
      (∃ reads, (check home registrations).Yields reads (answerBy reader home registrations) ∧
        ∀ read ∈ reads, read.reply = reader read.question) ∧
      (∀ others, answerBy reader home (registrations ++ others) = .ok true ↔
        answerBy reader home registrations = .ok true ∧
          answerBy reader home others = .ok true) ∧
      ∀ part, part.Sublist registrations → answerBy reader home registrations = .ok true →
        answerBy reader home part = .ok true := by
  refine ⟨⟨_, keysInOrder_backingServices home registrations, checkServices_yields_iff _⟩,
    fun others => check_congr home, fun reader => ⟨?_, ?_, ?_⟩⟩
  · exact Interaction.exists_yields_of_replies reader (check home registrations)
  · intro others
    simp only [answerBy_eq_open_iff, List.forall_mem_append]
  · intro part sublist opened
    rw [answerBy_eq_open_iff] at opened ⊢
    exact fun registration member => opened registration (sublist.subset member)

end Registrar.Readiness
