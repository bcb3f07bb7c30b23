import Registrar.Proofs.Cluster.Creation
import Registrar.Proofs.Cluster.SharedResource
import Registrar.Proofs.RoundTrip.Objects
/-!
# A race to create the resource

Replicas that start at the same time all look for the resource that instructs them, and create it if
there is none. A person may create it in between, and say there that nothing is to be managed. What
is created meets an existing resource with a conflict, so one of them comes first, and no call
writes over it.

A history tells in one sequence what other clients wrote and how the requests of the calls were
served. What the calls ask follows from their program; what is served is put down in rules for the
server, which also know patches and deletions.
-/

set_option autoImplicit false

namespace Registrar.Cluster.Creation

open Api

/-! ## Histories -/

variable {Caller : Type}

inductive Moment (Caller : Type) where
  /-- Another client has created or changed the resource. -/
  | changed (resource : Members)
  /-- A request of a caller was answered, and nothing came of it. -/
  | answered (caller : Caller) (request : Request) (reply : Except String Response)
  /-- A request of a caller has created the resource, whatever the caller was told of that. -/
  | created (caller : Caller) (request : Request) (reply : Except String Response)
      (resource : Members)
  /-- A request of a caller has changed or removed the resource. -/
  | overwritten (caller : Caller) (request : Request) (reply : Except String Response)
      (after : Option Members)

namespace Moment

def change? : Moment Caller → Option Members
  | changed resource => some resource
  | _ => none

def creation? : Moment Caller → Option Members
  | created _ _ _ resource => some resource
  | _ => none

def sent? : Moment Caller → Option (Caller × Request × Except String Response)
  | changed _ => none
  | answered caller request reply => some (caller, request, reply)
  | created caller request reply _ => some (caller, request, reply)
  | overwritten caller request reply _ => some (caller, request, reply)

end Moment

def creations (history : List (Moment Caller)) : List Members :=
  history.filterMap Moment.creation?

/-- What other clients have last written, or what there was at first. -/
def lastChange (first : Members) (history : List (Moment Caller)) : Members :=
  history.foldl (fun held moment => moment.change?.getD held) first

/-- The requests of one caller, with their replies. -/
def madeBy [DecidableEq Caller] (caller : Caller) (history : List (Moment Caller)) :
    List (Request × Except String Response) :=
  history.filterMap fun moment => moment.sent?.bind fun sent =>
    if sent.1 = caller then some sent.2 else none

theorem mem_madeBy_iff [DecidableEq Caller] {caller : Caller} {history : List (Moment Caller)}
    {entry : Request × Except String Response} :
    entry ∈ madeBy caller history ↔ ∃ moment ∈ history, moment.sent? = some (caller, entry) := by
  unfold madeBy
  rw [List.mem_filterMap]
  refine exists_congr fun moment => and_congr_right fun _ => ?_
  cases moment.sent? with
  | none => simp
  | some sent =>
      obtain ⟨other, sent⟩ := sent
      by_cases same : other = caller <;> simp [same]

/-- No request of a caller has changed or removed the resource. -/
def Unwritten (history : List (Moment Caller)) : Prop :=
  ∀ caller request reply after, .overwritten caller request reply after ∉ history

theorem Unwritten.of_append {earlier later : List (Moment Caller)}
    (unwritten : Unwritten (earlier ++ later)) : Unwritten later :=
  fun _ _ _ _ member => unwritten _ _ _ _ (List.mem_append_right earlier member)

theorem Unwritten.tail {moment : Moment Caller} {rest : List (Moment Caller)}
    (unwritten : Unwritten (moment :: rest)) : Unwritten rest :=
  fun _ _ _ _ member => unwritten _ _ _ _ (.tail _ member)

/-! ## What the server does -/

/-- A request creates the resource of this name, as it is wanted. -/
structure Creates (name : String) (request : Request) (wanted : Operator) : Prop where
  method : request.method = .post
  target : request.target = ⟨Collection.operators, []⟩
  body : ∃ body, request.body = some body ∧ Operator.ofJson body = .ok wanted
  named : wanted.metadata.name = some name

/-- The answer to a request that comes to nothing. A read tells whether the resource exists, and
creating it is in vain only if it does. -/
structure Honest (name : String) (held : Option Members) (request : Request)
    (reply : Except String Response) : Prop where
  reading : Request.read Collection.operators name = .ok request →
    ∀ {present : Bool}, looked reply = .ok present → held.isSome = present
  creating : ∀ {wanted : Operator}, Creates name request wanted →
    attempted reply = .ok () → held.isSome = true

/-- How the resource fares in a history. It is created by one request as a whole, where there is
none; nobody but a caller would remove it. -/
inductive Passes (name : String) :
    Option Members → List (Moment Caller) → Option Members → Prop where
  | nil (held : Option Members) : Passes name held [] held
  | changed {held last : Option Members} {resource : Members} {rest : List (Moment Caller)} :
      Passes name (some resource) rest last →
      Passes name held (.changed resource :: rest) last
  | answered {held last : Option Members} {caller : Caller} {request : Request}
      {reply : Except String Response} {rest : List (Moment Caller)} :
      Honest name held request reply → Passes name held rest last →
      Passes name held (.answered caller request reply :: rest) last
  | created {last : Option Members} {caller : Caller} {request : Request}
      {reply : Except String Response} {resource : Members} {rest : List (Moment Caller)}
      {wanted stored : Operator} :
      Creates name request wanted → Operator.ofJson (.object resource) = .ok stored →
      stored.spec = wanted.spec → Passes name (some resource) rest last →
      Passes name none (.created caller request reply resource :: rest) last
  | overwritten {held last after : Option Members} {caller : Caller} {request : Request}
      {reply : Except String Response} {rest : List (Moment Caller)} :
      request.method = .patch ∨ request.method = .delete → Passes name after rest last →
      Passes name held (.overwritten caller request reply after :: rest) last

namespace Passes

variable {name : String} {first last : Option Members} {history : List (Moment Caller)}

theorem append_inv {earlier later : List (Moment Caller)}
    (passes : Passes name first (earlier ++ later) last) :
    ∃ middle, Passes name first earlier middle ∧ Passes name middle later last := by
  induction earlier generalizing first with
  | nil => exact ⟨first, .nil first, passes⟩
  | cons moment earlier ih =>
      cases passes with
      | changed passes =>
          obtain ⟨middle, before, after⟩ := ih passes
          exact ⟨middle, .changed before, after⟩
      | answered honest passes =>
          obtain ⟨middle, before, after⟩ := ih passes
          exact ⟨middle, .answered honest before, after⟩
      | created creates stored same passes =>
          obtain ⟨middle, before, after⟩ := ih passes
          exact ⟨middle, .created creates stored same before, after⟩
      | overwritten method passes =>
          obtain ⟨middle, before, after⟩ := ih passes
          exact ⟨middle, .overwritten method before, after⟩

/-- What is held in the end is decided by what is held at first. -/
theorem unique {other : Option Members} (passes : Passes name first history last)
    (likewise : Passes name first history other) : last = other := by
  induction passes with
  | nil => cases likewise; rfl
  | changed _ ih => cases likewise with | changed likewise => exact ih likewise
  | answered _ _ ih => cases likewise with | answered _ likewise => exact ih likewise
  | created _ _ _ _ ih => cases likewise with | created _ _ _ likewise => exact ih likewise
  | overwritten _ _ ih => cases likewise with | overwritten _ likewise => exact ih likewise

/-- Callers that only read and create leave an existing resource to the others. -/
theorem eq_lastChange {resource : Members} (passes : Passes name (some resource) history last)
    (unwritten : Unwritten history) :
    creations history = [] ∧ last = some (lastChange resource history) := by
  induction history generalizing resource with
  | nil =>
      cases passes
      exact ⟨rfl, rfl⟩
  | cons moment rest ih =>
      -- nothing is created here, because the resource is there already
      cases passes with
      | changed passes => exact ih passes unwritten.tail
      | answered _ passes => exact ih passes unwritten.tail
      | overwritten => exact absurd (.head _) (unwritten _ _ _ _)

theorem isSome (passes : Passes name first history last) (unwritten : Unwritten history)
    (held : first.isSome = true) : last.isSome = true := by
  obtain ⟨resource, rfl⟩ := Option.isSome_iff_exists.mp held
  obtain ⟨-, rfl⟩ := passes.eq_lastChange unwritten
  rfl

theorem length_creations_le (passes : Passes name first history last)
    (unwritten : Unwritten history) : (creations history).length ≤ 1 := by
  induction passes with
  | nil => exact Nat.zero_le 1
  | changed passes ih => exact ih unwritten.tail
  | answered _ passes ih => exact ih unwritten.tail
  | @created _ caller request reply resource rest _ _ _ _ _ passes _ =>
      obtain ⟨none, -⟩ := passes.eq_lastChange unwritten.tail
      have alone : creations (.created caller request reply resource :: rest) =
          resource :: creations rest := rfl
      rw [alone, none]
      exact Nat.le_refl 1
  | overwritten => exact absurd (.head _) (unwritten _ _ _ _)

theorem exists_of_created (passes : Passes name first history last) {resource : Members}
    (member : resource ∈ creations history) :
    ∃ caller request reply wanted stored, .created caller request reply resource ∈ history ∧
      Creates name request wanted ∧ Operator.ofJson (.object resource) = .ok stored ∧
      stored.spec = wanted.spec := by
  obtain ⟨moment, inside, created⟩ := List.mem_filterMap.mp member
  obtain ⟨before, after, rfl⟩ := List.append_of_mem inside
  obtain ⟨middle, -, passes⟩ := passes.append_inv
  cases passes with
  | created creates readable same _ =>
      cases created
      exact ⟨_, _, _, _, _, inside, creates, readable, same⟩
  | changed | answered | overwritten => cases created

end Passes

/-! ## What the calls come to -/

variable [DecidableEq Caller]

/-- Every caller makes sure that the resource exists, and has come as far as the history tells. -/
def Calls (name : String) (history : List (Moment Caller)) : Prop :=
  ∀ caller, ∃ rest, (ensureOperator name).Leads (exchanges (madeBy caller history)) rest

section

variable {name : String} {first last : Option Members} {history : List (Moment Caller)}
  {caller : Caller} {request : Request} {reply : Except String Response}

theorem Calls.request_eq (calls : Calls name history) {moment : Moment Caller}
    (member : moment ∈ history) (sent : moment.sent? = some (caller, request, reply)) :
    Request.read Collection.operators name = .ok request ∨ request = creation name := by
  obtain ⟨rest, leads⟩ := calls caller
  exact (stage_of_leads leads).request_eq (mem_madeBy_iff.mpr ⟨moment, member, sent⟩)

theorem Calls.unwritten (calls : Calls name history) (passes : Passes name first history last) :
    Unwritten history := by
  intro caller request reply after member
  obtain ⟨before, later, rfl⟩ := List.append_of_mem member
  obtain ⟨middle, -, passes⟩ := passes.append_inv
  cases passes with
  | overwritten method _ =>
      rcases calls.request_eq member rfl with addressed | rfl
      · rw [method_of_read addressed] at method
        simp at method
      · simp [creation] at method

theorem creates_creation (name : String) : Creates name (creation name) (Operator.named name) where
  method := rfl
  target := rfl
  body := by
    have regular : (Operator.named name).Regular := ⟨⟨nofun, nofun, nofun, nofun, nofun⟩, rfl⟩
    exact ⟨_, rfl, Operator.ofJson_toJson regular nofun⟩
  named := rfl

theorem Creates.unique {wanted other : Operator} (creates : Creates name request wanted)
    (likewise : Creates name request other) : wanted = other := by
  obtain ⟨body, held, readable⟩ := creates.body
  obtain ⟨_, same, read⟩ := likewise.body
  obtain rfl := Option.some.inj (held.symm.trans same)
  exact Except.ok.inj (readable.symm.trans read)

theorem Calls.managed (calls : Calls name history) (passes : Passes name first history last)
    {resource : Members} (member : resource ∈ creations history) :
    ∃ operator, Operator.ofJson (.object resource) = .ok operator ∧
      operator.spec.managementState = .managed := by
  obtain ⟨caller, request, reply, wanted, stored, inside, creates, readable, same⟩ :=
    passes.exists_of_created member
  refine ⟨stored, readable, ?_⟩
  rcases calls.request_eq inside rfl with addressed | rfl
  · exact absurd ((method_of_read addressed).symm.trans creates.method) (by decide)
  · rw [same, creates.unique (creates_creation name)]
    rfl

/-- A request has created the resource, or its answer was true of the resource at its time. From
then on an existing resource stays. -/
theorem Calls.served (calls : Calls name history) (passes : Passes name first history last)
    (member : (request, reply) ∈ madeBy caller history) :
    ((∃ wanted, Creates name request wanted) ∧ last.isSome = true) ∨
      ∃ held : Option Members, Honest name held request reply ∧
        (held.isSome = true → last.isSome = true) := by
  have unwritten := calls.unwritten passes
  obtain ⟨moment, inside, sent⟩ := mem_madeBy_iff.mp member
  obtain ⟨before, after, rfl⟩ := List.append_of_mem inside
  have later := unwritten.of_append.tail
  obtain ⟨held, -, meeting⟩ := passes.append_inv
  cases meeting with
  | changed => cases sent
  | answered honest onward =>
      cases sent
      exact .inr ⟨held, honest, onward.isSome later⟩
  | created creates _ _ onward =>
      cases sent
      exact .inl ⟨⟨_, creates⟩, onward.isSome later rfl⟩
  | overwritten => exact absurd inside (unwritten _ _ _ _)

/-- Where a call has succeeded, the resource exists from then on. -/
theorem Calls.exists_of_yields (calls : Calls name history)
    (passes : Passes name first history last)
    (yields : (ensureOperator name).Yields (exchanges (madeBy caller history)) (.ok ())) :
    last.isSome = true := by
  obtain ⟨rest, leads⟩ := calls caller
  obtain rfl := (leads.yields_iff _).mp yields
  rcases (stage_of_leads leads).evidence with
    ⟨read, found, member, addressed, told⟩ | ⟨reply, member, went⟩
  · rcases calls.served passes member with ⟨⟨wanted, creates⟩, -⟩ | ⟨held, honest, stays⟩
    · exact absurd ((method_of_read addressed).symm.trans creates.method) (by decide)
    · exact stays (honest.reading addressed told)
  · rcases calls.served passes member with ⟨-, present⟩ | ⟨held, honest, stays⟩
    · exact present
    · exact stays (honest.creating (creates_creation name) went)

end

/-- What comes of calls that make sure that a resource exists, however they race. -/
structure Ensured (name : String) (first : Option Members) (history : List (Moment Caller))
    (last : Option Members) : Prop where
  /-- One of the calls at most creates the resource. -/
  once : (creations history).length ≤ 1
  managed : ∀ resource ∈ creations history, ∃ operator,
    Operator.ofJson (.object resource) = .ok operator ∧ operator.spec.managementState = .managed
  /-- Whoever created the resource, from then on it is as other clients have last written it. -/
  untouched : ∀ {before after : List (Moment Caller)} {resource : Members},
    history = before ++ after → Passes name first before (some resource) →
      creations after = [] ∧ last = some (lastChange resource after)
  conduct : ∀ {caller : Caller} {rest : Talk (Except Failure Unit)},
    (ensureOperator name).Leads (exchanges (madeBy caller history)) rest →
      Conduct name (madeBy caller history) rest
  succeeds : ∀ {caller : Caller} {read : Request} {result : Except Failure Unit},
    Request.read Collection.operators name = .ok read →
    (∀ entry ∈ madeBy caller history, told entry = .ok ()) →
    (ensureOperator name).Yields (exchanges (madeBy caller history)) result → result = .ok ()
  /-- If a call has succeeded, the resource exists. -/
  thereAfter : ∀ {caller : Caller},
    (ensureOperator name).Yields (exchanges (madeBy caller history)) (.ok ()) → last.isSome = true

/-- However the requests of any number of calls and the writes of other clients follow each other,
the resource is created once, and never written over. -/
theorem ensured_of_race {name : String} {first last : Option Members}
    {history : List (Moment Caller)} (calls : Calls name history)
    (passes : Passes name first history last) : Ensured name first history last where
  once := passes.length_creations_le (calls.unwritten passes)
  managed _ member := calls.managed passes member
  untouched := by
    intro before after resource split held
    subst split
    have unwritten := calls.unwritten passes
    obtain ⟨middle, likewise, later⟩ := passes.append_inv
    obtain rfl := held.unique likewise
    exact later.eq_lastChange unwritten.of_append
  conduct leads := (stage_of_leads leads).conduct
  succeeds := by
    intro caller read result addressed went yields
    obtain ⟨rest, leads⟩ := calls caller
    obtain rfl := (leads.yields_iff _).mp yields
    rcases (stage_of_leads leads).conduct.returns with returned | ⟨request, resume, waits, -⟩
    · cases returned
      exact verdict_eq_ok addressed went
    · cases waits
  thereAfter yields := calls.exists_of_yields passes yields

/-! ## A race of two replicas and a person -/

def refusal (code : Nat) (reason : String) : Except String Response :=
  .ok ⟨code, .json (.object
    [("status", .string "Failure"), ("reason", .string reason), ("code", .integer code)])⟩

def removedOperator : Operator :=
  { Operator.named "cluster" with spec := ⟨.removed⟩ }

/-- Both replicas find nothing. One creates the resource, and before the other one tries to, a person
says that everything is to be removed. -/
def sampleRace : List (Moment Bool) :=
  [.answered false sampleRead (refusal 404 "NotFound"),
    .answered true sampleRead (refusal 404 "NotFound"),
    .created false (creation "cluster") (shown (.named "cluster"))
      (Operator.named "cluster").toJson.members,
    .changed removedOperator.toJson.members,
    .answered true (creation "cluster") (refusal 409 "AlreadyExists")]

theorem addressed_sampleRead : Request.read Collection.operators "cluster" = .ok sampleRead := by
  decide +kernel

theorem leads_sampleRace (caller : Bool) :
    (ensureOperator "cluster").Leads (exchanges (madeBy caller sampleRace)) (.done (.ok ())) := by
  rw [ensureOperator_of_addressed addressed_sampleRead]
  cases caller with
  | false => exact .ask (.ask (.stay _))
  | true => exact .ask (.ask (.stay _))

theorem passes_sampleRace :
    Passes "cluster" none sampleRace (some removedOperator.toJson.members) := by
  have unseen : Honest "cluster" none sampleRead (refusal 404 "NotFound") := by
    refine ⟨fun _ present told => ?_, fun creates => ?_⟩
    · cases told
      rfl
    · cases creates.method
  refine .answered unseen (.answered unseen (.created (creates_creation "cluster") rfl rfl
    (.changed (.answered ⟨fun addressed => ?_, fun _ _ => rfl⟩ (.nil _)))))
  cases method_of_read addressed

/-- Both calls succeed, and the resource is left to the person. -/
theorem ensured_of_race_with_removal :
    Calls "cluster" sampleRace ∧
      Passes "cluster" none sampleRace (some removedOperator.toJson.members) ∧
      Ensured "cluster" none sampleRace (some removedOperator.toJson.members) ∧
      ∀ caller,
        (ensureOperator "cluster").Yields (exchanges (madeBy caller sampleRace)) (.ok ()) := by
  have calls : Calls "cluster" sampleRace := fun caller => ⟨_, leads_sampleRace caller⟩
  have ensured := ensured_of_race calls passes_sampleRace
  refine ⟨calls, passes_sampleRace, ensured, fun caller => ?_⟩
  exact ((leads_sampleRace caller).yields_iff _).mpr rfl

end Registrar.Cluster.Creation
