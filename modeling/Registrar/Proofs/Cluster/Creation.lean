import Registrar.Proofs.Cluster.Startup
/-!
# Creating the resource

A call that makes sure that the resource exists reads it, and creates it if there is none. What it
was answered so far decides where it is: it waits for one of these two answers, or it has returned.
-/

set_option autoImplicit false

namespace Registrar.Cluster.Creation

open Api

/-! ## A single call -/

/-- Whether a read has found the resource, if it told. -/
def looked (reply : Except String Response) : Except ClusterFailure Bool :=
  match outcome Operator.ofJson reply with
  | .ok _ => .ok true
  | .error failure => if failure.saysAbsent then .ok false else .error failure

/-- How an attempt to create the resource went. It may have been forestalled. -/
def attempted (reply : Except String Response) : Except ClusterFailure Unit :=
  match outcome Operator.ofJson reply with
  | .ok _ => .ok ()
  | .error failure => if failure.refusalCode? = some 409 then .ok () else .error failure

/-- The request that creates the resource with the ordinary instruction. -/
def creation (name : String) : Request :=
  ⟨.post, ⟨Collection.operators, []⟩, some "application/json", some (Operator.named name).toJson⟩

theorem create_eq_creation (name : String) :
    Request.create Collection.operators (Operator.named name).toJson = .ok (creation name) := by
  have parsed : Target.parse? (Collection.operators ++ "") = some ⟨Collection.operators, []⟩ := by
    decide +kernel
  unfold Request.create Request.build
  simp only [List.isEmpty_nil, if_true, parsed]
  rfl

variable {name : String} {read : Request}

/-- A read that cannot be addressed says nothing of the resource. -/
theorem saysAbsent_of_unaddressed {failure : ClusterFailure}
    (unaddressed : Request.read Collection.operators name = .error failure) :
    failure.saysAbsent = false := by
  unfold Request.read Request.buildFor Request.build at unaddressed
  dsimp only at unaddressed
  split at unaddressed
  · cases unaddressed
    rfl
  · split at unaddressed
    · cases unaddressed
      rfl
    · cases unaddressed

theorem method_of_read (addressed : Request.read Collection.operators name = .ok read) :
    read.method = .get := by
  unfold Request.read Request.buildFor Request.build at addressed
  dsimp only at addressed
  split at addressed
  · cases addressed
  · split at addressed
    · cases addressed
    · cases addressed
      rfl

theorem perform_of_built {α : Type} (request : Request) (read : Json → Decoded α) :
    perform (.ok request) read =
      .ask (.exchange request) fun reply => .done (outcome read reply) :=
  rfl

theorem ensureOperator_of_unaddressed {failure : ClusterFailure}
    (unaddressed : Request.read Collection.operators name = .error failure) :
    ensureOperator name = .done (.error (.cluster failure)) := by
  unfold ensureOperator readOptional perform
  rw [unaddressed]
  simp [saysAbsent_of_unaddressed unaddressed]

theorem ensureOperator_of_addressed
    (addressed : Request.read Collection.operators name = .ok read) :
    ensureOperator name = .ask (.exchange read) fun found =>
      match looked found with
      | .error failure => .done (.error (.cluster failure))
      | .ok true => .done (.ok ())
      | .ok false => .ask (.exchange (creation name)) fun reply =>
          .done (raise (attempted reply)) := by
  unfold ensureOperator readOptional
  rw [addressed, create_eq_creation]
  simp only [perform_of_built, Interaction.ask_bind, Interaction.done_bind]
  refine congrArg (Interaction.ask _) (funext fun found => ?_)
  unfold looked
  cases outcome Operator.ofJson found with
  | ok operator => rfl
  | error failure =>
      cases absent : failure.saysAbsent with
      | false => simp [absent]
      | true =>
          simp only [absent, if_true, Interaction.pure_eq_done, Interaction.done_bind]
          refine congrArg (Interaction.ask _) (funext fun reply => ?_)
          unfold attempted
          cases outcome Operator.ofJson reply with
          | ok operator => rfl
          | error failure =>
              dsimp only
              split <;> rfl

/-- How far a call has come: the requests that were answered, and what is left of it. -/
inductive Stage (name : String) :
    List (Request × Except String Response) → Talk (Except Failure Unit) → Prop where
  | unaddressed {failure : ClusterFailure} :
      Request.read Collection.operators name = .error failure →
      Stage name [] (.done (.error (.cluster failure)))
  | reading {read : Request} {resume : Except String Response → Talk (Except Failure Unit)} :
      Request.read Collection.operators name = .ok read →
      Stage name [] (.ask (.exchange read) resume)
  | unread {read : Request} {found : Except String Response} {failure : ClusterFailure} :
      Request.read Collection.operators name = .ok read → looked found = .error failure →
      Stage name [(read, found)] (.done (.error (.cluster failure)))
  | present {read : Request} {found : Except String Response} :
      Request.read Collection.operators name = .ok read → looked found = .ok true →
      Stage name [(read, found)] (.done (.ok ()))
  | creating {read : Request} {found : Except String Response}
      {resume : Except String Response → Talk (Except Failure Unit)} :
      Request.read Collection.operators name = .ok read → looked found = .ok false →
      Stage name [(read, found)] (.ask (.exchange (creation name)) resume)
  | attempted {read : Request} {found reply : Except String Response} :
      Request.read Collection.operators name = .ok read → looked found = .ok false →
      Stage name [(read, found), (creation name, reply)] (.done (raise (attempted reply)))

theorem eq_of_leads_done {α : Type} {value : α} {rest : Talk α}
    {answered : List (Request × Except String Response)}
    (leads : (.done value : Talk α).Leads (exchanges answered) rest) :
    answered = [] ∧ rest = .done value := by
  cases answered with
  | nil =>
      cases leads
      exact ⟨rfl, rfl⟩
  | cons => cases leads

theorem eq_of_leads_ask {α : Type} {request : Request} {rest : Talk α}
    {resume : Except String Response → Talk α}
    {answered : List (Request × Except String Response)}
    (leads : (.ask (.exchange request) resume : Talk α).Leads (exchanges answered) rest) :
    (answered = [] ∧ rest = .ask (.exchange request) resume) ∨
      ∃ reply later, answered = (request, reply) :: later ∧
        (resume reply).Leads (exchanges later) rest := by
  cases answered with
  | nil =>
      cases leads
      exact .inl ⟨rfl, rfl⟩
  | cons entry later =>
      obtain ⟨asked, reply⟩ := entry
      cases leads with
      | ask leads => exact .inr ⟨reply, later, rfl, leads⟩

/-- Whatever is answered, a call is at one of these stages. -/
theorem stage_of_leads {answered : List (Request × Except String Response)}
    {rest : Talk (Except Failure Unit)}
    (leads : (ensureOperator name).Leads (exchanges answered) rest) : Stage name answered rest := by
  cases addressed : Request.read Collection.operators name with
  | error failure =>
      rw [ensureOperator_of_unaddressed addressed] at leads
      obtain ⟨rfl, rfl⟩ := eq_of_leads_done leads
      exact .unaddressed addressed
  | ok read =>
      rw [ensureOperator_of_addressed addressed] at leads
      obtain ⟨rfl, rfl⟩ | ⟨found, later, rfl, further⟩ := eq_of_leads_ask leads
      · exact .reading addressed
      · cases told : looked found with
        | error failure =>
            simp only [told] at further
            obtain ⟨rfl, rfl⟩ := eq_of_leads_done further
            exact .unread addressed told
        | ok present =>
            cases present with
            | true =>
                simp only [told] at further
                obtain ⟨rfl, rfl⟩ := eq_of_leads_done further
                exact .present addressed told
            | false =>
                simp only [told] at further
                obtain ⟨rfl, rfl⟩ | ⟨reply, last, rfl, ended⟩ := eq_of_leads_ask further
                · exact .creating addressed told
                · obtain ⟨rfl, rfl⟩ := eq_of_leads_done ended
                  exact .attempted addressed told

namespace Stage

variable {answered : List (Request × Except String Response)} {rest : Talk (Except Failure Unit)}

theorem request_eq (stage : Stage name answered rest) {request : Request}
    {reply : Except String Response} (member : (request, reply) ∈ answered) :
    Request.read Collection.operators name = .ok request ∨ request = creation name := by
  cases stage with
  | unaddressed => cases member
  | reading => cases member
  | unread addressed | present addressed | creating addressed =>
      cases List.mem_singleton.mp member
      exact .inl addressed
  | attempted addressed =>
      rcases List.mem_cons.mp member with same | member
      · cases same
        exact .inl addressed
      · cases List.mem_singleton.mp member
        exact .inr rfl

/-- A call that succeeded has found the resource, or has tried to create it with success. -/
theorem evidence (stage : Stage name answered (.done (.ok ()))) :
    (∃ read found, (read, found) ∈ answered ∧
      Request.read Collection.operators name = .ok read ∧ looked found = .ok true) ∨
    ∃ reply, (creation name, reply) ∈ answered ∧ Creation.attempted reply = .ok () := by
  generalize same : (.done (.ok ()) : Talk (Except Failure Unit)) = rest at stage
  cases stage with
  | unaddressed | reading | unread | creating => cases same
  | present addressed found => exact .inl ⟨_, _, .head _, addressed, found⟩
  | @attempted _ _ reply _ _ =>
      refine .inr ⟨reply, .tail _ (.head _), ?_⟩
      cases went : Creation.attempted reply with
      | ok _ => rfl
      | error failure =>
          rw [went] at same
          cases same

end Stage

/-- How a request of a call went. -/
def told (entry : Request × Except String Response) : Except ClusterFailure Unit :=
  if entry.1.method = .post then attempted entry.2 else (looked entry.2).map fun _ => ()

theorem told_read (addressed : Request.read Collection.operators name = .ok read)
    (found : Except String Response) : told (read, found) = (looked found).map fun _ => () := by
  unfold told
  rw [if_neg (by simp [method_of_read addressed])]

theorem told_creation (name : String) (reply : Except String Response) :
    told (creation name, reply) = attempted reply :=
  rfl

/-- What a call comes to: its first failure, if there is one. -/
def verdict (name : String) (answered : List (Request × Except String Response)) :
    Except Failure Unit :=
  raise do
    let _ ← Request.read Collection.operators name
    forM answered told

theorem verdict_of_addressed (addressed : Request.read Collection.operators name = .ok read)
    (answered : List (Request × Except String Response)) :
    verdict name answered = raise (forM answered told) := by
  unfold verdict
  rw [addressed]
  rfl

theorem verdict_eq_ok (addressed : Request.read Collection.operators name = .ok read)
    {answered : List (Request × Except String Response)}
    (went : ∀ entry ∈ answered, told entry = .ok ()) : verdict name answered = .ok () := by
  rw [verdict_of_addressed addressed]
  induction answered with
  | nil => rfl
  | cons entry rest ih =>
      obtain ⟨here, later⟩ := List.forall_mem_cons.mp went
      rw [List.forM_cons, here]
      exact ih later

/-- What a call does on its own account, whatever it is answered. -/
structure Conduct (name : String) (answered : List (Request × Except String Response))
    (rest : Talk (Except Failure Unit)) : Prop where
  /-- It reads the resource, and creates it once if it has found nothing. -/
  requests : answered = [] ∨ ∃ read found, Request.read Collection.operators name = .ok read ∧
    (answered = [(read, found)] ∨
      looked found = .ok false ∧ ∃ reply, answered = [(read, found), (creation name, reply)])
  /-- It has returned unless it waits for the answer to one of its two requests. -/
  returns : rest = .done (verdict name answered) ∨
    ∃ request resume, rest = .ask (.exchange request) resume ∧ answered.length < 2

theorem Stage.conduct {answered : List (Request × Except String Response)}
    {rest : Talk (Except Failure Unit)} (stage : Stage name answered rest) :
    Conduct name answered rest := by
  cases stage with
  | unaddressed refused =>
      refine ⟨.inl rfl, .inl ?_⟩
      unfold verdict
      rw [refused]
      rfl
  | reading addressed => exact ⟨.inl rfl, .inr ⟨_, _, rfl, Nat.zero_lt_two⟩⟩
  | unread addressed failed =>
      refine ⟨.inr ⟨_, _, addressed, .inl rfl⟩, .inl ?_⟩
      rw [verdict_of_addressed addressed, List.forM_cons, told_read addressed, failed]
      rfl
  | present addressed found =>
      refine ⟨.inr ⟨_, _, addressed, .inl rfl⟩, .inl ?_⟩
      rw [verdict_of_addressed addressed, List.forM_cons, told_read addressed, found]
      rfl
  | creating addressed absent =>
      exact ⟨.inr ⟨_, _, addressed, .inl rfl⟩, .inr ⟨_, _, rfl, Nat.one_lt_two⟩⟩
  | @attempted read found reply addressed absent =>
      refine ⟨.inr ⟨_, _, addressed, .inr ⟨absent, _, rfl⟩⟩, .inl ?_⟩
      rw [verdict_of_addressed addressed, List.forM_cons, told_read addressed, absent,
        List.forM_cons, told_creation]
      cases Creation.attempted reply <;> rfl

end Registrar.Cluster.Creation
