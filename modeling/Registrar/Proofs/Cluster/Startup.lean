import Registrar.Cluster.Startup
import Registrar.Proofs.Transcript
/-!
# What is asked at the start

Starting up takes three requests at most, each only after the one before it was answered: the
operator resources are listed, the one that instructs the operator is read, and it is created if it
was absent. Nothing else is asked, so a controller that starts up is at a standstill between two
answers.
-/

set_option autoImplicit false

namespace Registrar.Cluster

open Api

variable {α : Type}

/-! ## Programs of requests -/

/-- A program asks for nothing but requests, and these are the first ones of a list. -/
inductive Asks : Talk α → List Request → Prop where
  | done (value : α) (requests : List Request) : Asks (.done value) requests
  | exchange {request : Request} {resume : Except String Response → Talk α}
      {requests : List Request} :
      (∀ reply, Asks (resume reply) requests) →
      Asks (.ask (.exchange request) resume) (request :: requests)

def exchanges (answered : List (Request × Except String Response)) : Transcript questions :=
  answered.map fun entry => ⟨.exchange entry.1, entry.2⟩

/-- The requests that were answered are the first ones, and the rest of the program goes on from
there. -/
theorem Asks.of_leads {program rest : Talk α} {requests : List Request}
    (asks : Asks program requests) {answered : List (Request × Except String Response)}
    (leads : program.Leads (exchanges answered) rest) :
    ∃ later, requests = answered.map Prod.fst ++ later ∧ Asks rest later := by
  induction answered generalizing program requests with
  | nil =>
      cases leads
      exact ⟨requests, rfl, asks⟩
  | cons entry answered ih =>
      obtain ⟨request, reply⟩ := entry
      cases leads with
      | ask leads =>
          cases asks with
          | exchange asks =>
              obtain ⟨later, split, further⟩ := ih (asks reply) leads
              exact ⟨later, congrArg (request :: ·) split, further⟩

/-- A request that cannot be built is not sent, and counts as failed. -/
theorem asks_perform_bind {β : Type} (request : Except ClusterFailure Request)
    (read : Json → Decoded β) {next : Except ClusterFailure β → Talk α} {requests : List Request}
    (asks : ∀ found, Asks (next found) requests) :
    Asks (perform request read >>= next) (request.toOption.toList ++ requests) := by
  cases request with
  | error failure => exact asks (.error failure)
  | ok request => exact .exchange fun reply => asks (outcome read reply)

/-! ## The startup -/

def listing : Request :=
  ⟨.get, ⟨Collection.operators, ["limit=1"]⟩, none, none⟩

theorem list_eq_listing : Request.list Collection.operators ["limit=1"] = .ok listing := by
  have parsed : Target.parse? (Collection.operators ++ ("?" ++ "&".intercalate ["limit=1"])) =
      some ⟨Collection.operators, ["limit=1"]⟩ := by decide +kernel
  unfold Request.list Request.build
  simp only [List.isEmpty_cons, Bool.false_eq_true, if_false, parsed]
  rfl

theorem startup_eq (identity : Identity) :
    startup identity = .ask (.exchange listing) fun reply =>
      match outcome (Listing.read Operator.ofJson) reply with
      | .error _ => .done (.error unknownKind)
      | .ok _ => ensureOperator identity.operatorName := by
  unfold startup
  rw [list_eq_listing]
  rfl

/-- The requests that make sure that a resource exists. -/
def ensuring (name : String) : List Request :=
  (Request.read Collection.operators name).toOption.toList ++
    (Request.create Collection.operators (Operator.named name).toJson).toOption.toList

theorem asks_ensureOperator (name : String) : Asks (ensureOperator name) (ensuring name) := by
  unfold ensureOperator readOptional
  rw [bind_assoc]
  refine asks_perform_bind _ _ fun found => ?_
  cases found with
  | ok operator => exact .done _ _
  | error failure =>
      cases absent : failure.saysAbsent with
      | false =>
          simp only [Interaction.pure_eq_done, Interaction.done_bind, absent, Bool.false_eq_true,
            if_false]
          exact .done _ _
      | true =>
          simp only [Interaction.pure_eq_done, Interaction.done_bind, absent, if_true]
          rw [← List.append_nil (Option.toList _)]
          refine asks_perform_bind _ _ fun created => ?_
          cases created <;> exact .done _ _

theorem asks_startup (identity : Identity) :
    Asks (startup identity) (listing :: ensuring identity.operatorName) := by
  rw [startup_eq]
  refine .exchange fun reply => ?_
  cases outcome (Listing.read Operator.ofJson) reply with
  | error => exact .done _ _
  | ok => exact asks_ensureOperator identity.operatorName

/-! ## Where a startup has come to -/

variable {identity : Identity} {rest : Talk (Except Failure Unit)} {request : Request}
  {reply : Except String Response} {answered : List (Request × Except String Response)}

/-- If the list cannot be had, nothing else is asked. -/
theorem unlisted_of_leads
    (leads : (startup identity).Leads (exchanges ((request, reply) :: answered)) rest)
    {cause : ClusterFailure}
    (failed : outcome (Listing.read Operator.ofJson) reply = .error cause) :
    request = listing ∧ answered = [] ∧ rest = .done (.error unknownKind) := by
  rw [startup_eq] at leads
  cases leads with
  | ask leads =>
      simp only [failed] at leads
      cases answered with
      | nil =>
          cases leads
          exact ⟨rfl, rfl, rfl⟩
      | cons => cases leads

theorem listed_of_leads
    (leads : (startup identity).Leads (exchanges ((request, reply) :: answered)) rest)
    {found : Listing Operator} (read : outcome (Listing.read Operator.ofJson) reply = .ok found) :
    request = listing ∧ (ensureOperator identity.operatorName).Leads (exchanges answered) rest := by
  rw [startup_eq] at leads
  cases leads with
  | ask leads =>
      simp only [read] at leads
      exact ⟨rfl, leads⟩

end Registrar.Cluster
