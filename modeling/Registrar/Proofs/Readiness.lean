import Registrar.Proofs.Transcript
import Registrar.Readiness
/-!
# How the gate is decided

The services that registrations refer to are read one after the other. The gate opens once all of them
were found ready, and the first one that is not ready shuts it.
-/

set_option autoImplicit false

namespace Registrar

/-! ## The services that are read -/

theorem Sorted.mem_foldl_insert {α : Type} {compare : α → α → Ordering}
    (eq_of_compare : ∀ left right, compare left right = .eq → left = right)
    (values sorted : List α) (value : α) :
    value ∈ values.foldl (fun sorted value => insert compare value sorted) sorted ↔
      value ∈ sorted ∨ value ∈ values := by
  induction values generalizing sorted with
  | nil => simp
  | cons head rest ih =>
      rw [List.foldl_cons, ih, mem_insert _ _ _ eq_of_compare, List.mem_cons]
      constructor
      · intro known
        rcases known with (same | member) | member
        · exact .inr (.inl same)
        · exact .inl member
        · exact .inr (.inr member)
      · intro known
        rcases known with member | same | member
        · exact .inl (.inr member)
        · exact .inl (.inl same)
        · exact .inr member

/-- Sorting loses no value and adds none. -/
theorem Sorted.mem_ofList {α : Type} {compare : α → α → Ordering}
    (eq_of_compare : ∀ left right, compare left right = .eq → left = right)
    (values : List α) (value : α) : value ∈ ofList compare values ↔ value ∈ values := by
  rw [ofList, mem_foldl_insert eq_of_compare]
  simp

namespace Readiness

theorem ServiceKey.eq_of_compare (left right : ServiceKey)
    (same : ServiceKey.compare left right = .eq) : left = right := by
  obtain ⟨leftNamespace, leftName⟩ := left
  obtain ⟨rightNamespace, rightName⟩ := right
  simpa [ServiceKey.compare, Ordering.then_eq_eq] using same

theorem mem_backingServices (home : String) (enabled : List Registration) (key : ServiceKey) :
    key ∈ backingServices home enabled ↔
      ∃ registration ∈ enabled, ∃ service, registration.spec.service = some service ∧
        ServiceKey.ofReference home service = key := by
  unfold backingServices
  rw [Sorted.mem_ofList ServiceKey.eq_of_compare]
  simp [List.mem_filterMap]

/-- The reply tells of a ready address. -/
def Ready (reply : Except Failure (Option Endpoints)) : Prop :=
  ∃ endpoints subset addresses, reply = .ok (some endpoints) ∧
    subset ∈ endpoints.subsets.getD [] ∧ subset.addresses = some addresses ∧ addresses ≠ []

theorem ready_iff (endpoints : Endpoints) :
    Ready (.ok (some endpoints)) ↔ endpoints.hasReadyAddress = true := by
  unfold Endpoints.hasReadyAddress
  rw [List.any_eq_true]
  constructor
  · intro ready
    obtain ⟨_, subset, addresses, same, member, held, some⟩ := ready
    cases same
    refine ⟨subset, member, ?_⟩
    unfold EndpointSubset.isReady
    rw [held]
    cases addresses with
    | nil => exact absurd rfl some
    | cons address rest => rfl
  · intro found
    obtain ⟨subset, member, ready⟩ := found
    unfold EndpointSubset.isReady at ready
    split at ready
    · next address rest held => exact ⟨_, subset, _, rfl, member, held, List.cons_ne_nil _ _⟩
    · cases ready

/-- The keys that were read. -/
def keysRead (reads : Transcript reading) : List ServiceKey :=
  reads.map Exchange.question

/-- The answer after a read that tells of no ready address. -/
def shutBy : Except Failure (Option Endpoints) → Except Failure Bool
  | .error failure => .error failure
  | .ok _ => .ok false

/-- How services that are read in order decide the answer. -/
inductive DecidedBy (keys : List ServiceKey) :
    Transcript reading → Except Failure Bool → Prop where
  /-- All of them are read and found ready. -/
  | opened {reads : Transcript reading} :
      keysRead reads = keys → (∀ read ∈ reads, Ready read.reply) →
      DecidedBy keys reads (.ok true)
  /-- The first one that is not ready is the last one that is read. -/
  | shut {reads : Transcript reading} {key : ServiceKey} {unread : List ServiceKey}
      {reply : Except Failure (Option Endpoints)} :
      keys = keysRead reads ++ key :: unread →
      (∀ read ∈ reads, Ready read.reply) → ¬ Ready reply →
      DecidedBy keys (reads ++ [⟨key, reply⟩]) (shutBy reply)

theorem shutBy_ne_open (reply : Except Failure (Option Endpoints)) : shutBy reply ≠ .ok true := by
  cases reply <;> simp [shutBy]

/-- After a read the next service has its turn if this one is ready, and the answer is given
otherwise. -/
theorem checkServices_cons (key : ServiceKey) (rest : List ServiceKey) :
    ∃ next : Except Failure (Option Endpoints) → Interaction reading (Except Failure Bool),
      checkServices (key :: rest) = .ask key next ∧
      (∀ reply, Ready reply → next reply = checkServices rest) ∧
      ∀ reply, ¬ Ready reply → next reply = .done (shutBy reply) := by
  refine ⟨_, rfl, ?_, ?_⟩
  · intro reply ready
    obtain ⟨endpoints, subset, addresses, rfl, held⟩ := ready
    exact if_pos ((ready_iff endpoints).mp ⟨endpoints, subset, addresses, rfl, held⟩)
  · intro reply unready
    cases reply with
    | error failure => rfl
    | ok found =>
        cases found with
        | none => rfl
        | some endpoints => exact if_neg fun ready => unready ((ready_iff endpoints).mpr ready)

theorem checkServices_yields_iff (keys : List ServiceKey) (transcript : Transcript reading)
    (answer : Except Failure Bool) :
    (checkServices keys).Yields transcript answer ↔ DecidedBy keys transcript answer := by
  induction keys generalizing transcript with
  | nil =>
      refine (Interaction.yields_done_iff _ _ _).trans ⟨?_, ?_⟩
      · intro ended
        obtain ⟨rfl, rfl⟩ := ended
        exact .opened rfl (List.forall_mem_nil _)
      · intro decided
        cases decided with
        | opened asked ready => exact ⟨List.map_eq_nil_iff.mp asked, rfl⟩
        | shut split => simp at split
  | cons key rest ih =>
      obtain ⟨next, unfolded, onward, ended⟩ := checkServices_cons key rest
      rw [unfolded]
      refine (Interaction.yields_ask_iff _ _ transcript answer).trans ⟨?_, ?_⟩
      · intro ran
        obtain ⟨reply, later, rfl, run⟩ := ran
        by_cases ready : Ready reply
        · rw [onward reply ready] at run
          cases (ih later).mp run with
          | opened asked others =>
              exact .opened (congrArg (key :: ·) asked) (List.forall_mem_cons.mpr ⟨ready, others⟩)
          | @shut reads last unread unready split others unreadied =>
              rw [← List.cons_append]
              exact .shut (congrArg (key :: ·) split) (List.forall_mem_cons.mpr ⟨ready, others⟩)
                unreadied
        · rw [ended reply ready] at run
          obtain ⟨rfl, rfl⟩ := (Interaction.yields_done_iff _ _ _).mp run
          rw [← List.nil_append [_]]
          exact .shut rfl (List.forall_mem_nil _) ready
      · intro decided
        cases decided with
        | opened asked ready =>
            cases transcript with
            | nil => cases asked
            | cons read later =>
                obtain ⟨first, reply⟩ := read
                obtain ⟨rfl, followed⟩ := List.cons_eq_cons.mp asked
                obtain ⟨here, others⟩ := List.forall_mem_cons.mp ready
                refine ⟨reply, later, rfl, ?_⟩
                rw [onward reply here]
                exact (ih later).mpr (.opened followed others)
        | @shut reads last unread reply split ready unready =>
            cases reads with
            | nil =>
                obtain ⟨rfl, rfl⟩ := List.cons_eq_cons.mp split
                refine ⟨reply, [], rfl, ?_⟩
                rw [ended reply unready]
                exact .done _
            | cons read reads =>
                obtain ⟨first, found⟩ := read
                obtain ⟨rfl, later⟩ := List.cons_eq_cons.mp split
                obtain ⟨here, others⟩ := List.forall_mem_cons.mp ready
                refine ⟨found, _, rfl, ?_⟩
                rw [onward found here]
                exact (ih _).mpr (.shut later others unready)

/-- The gate opens just after all services were read, each once and in order, and found ready. -/
theorem checkServices_yields_open_iff (keys : List ServiceKey) (transcript : Transcript reading) :
    (checkServices keys).Yields transcript (.ok true) ↔
      transcript.map Exchange.question = keys ∧ ∀ exchange ∈ transcript, Ready exchange.reply := by
  rw [checkServices_yields_iff]
  constructor
  · intro decided
    generalize same : Except.ok true = answer at decided
    cases decided with
    | opened asked ready => exact ⟨asked, ready⟩
    | shut => exact absurd same.symm (shutBy_ne_open _)
  · intro all
    exact .opened all.1 all.2

end Readiness

end Registrar
