import Registrar.Cluster.Cycle
import Registrar.Proofs.Cluster.StatusWrites
import Registrar.Proofs.Records
/-!
# A server that merges what is written

The API server keeps the operator resource as an object of JSON. A patch is merged into it: a member
that is null removes, an object is merged member by member, and any other value takes the place of
the old one. Besides that the server may leave its own marks on the metadata, but not on the
generation, because a status is no instruction.

What was written is read back, so writing it once more sends nothing.
-/

set_option autoImplicit false

namespace Registrar

namespace Json

def members : Json → List (String × Json)
  | object members => members
  | _ => []

mutual

/-- The value after a patch was merged into it, if there was one. -/
def mergePatch (target : Option Json) : Json → Json
  | object changes => object (mergeMembers ((target.map members).getD []) changes)
  | value => value

def mergeMembers (held : List (String × Json)) : List (String × Json) → List (String × Json)
  | [] => held
  | (name, null) :: rest => mergeMembers (without held name) rest
  | (name, change) :: rest =>
      mergeMembers (without held name ++ [(name, mergePatch (held.lookup name) change)]) rest

end

theorem mergePatch_member (held : List (String × Json)) (name : String)
    (changes : List (String × Json)) :
    mergePatch (some (.object held)) (.object [(name, .object changes)]) =
      .object (without held name ++
        [(name, .object (mergeMembers (((held.lookup name).map members).getD []) changes))]) := by
  simp [mergePatch, mergeMembers, members]

/-- What the patch of a status comes to, beside members that it does not name. -/
theorem mergeMembers_status (held : List (String × Json)) (conditions : List Condition)
    (generation : Option Int64) :
    mergeMembers held [("conditions", .array (conditions.map Condition.toJson)),
        ("observedGeneration", generation.elim .null .ofInt64)] =
      without (without held "conditions") "observedGeneration" ++
        ("conditions", .array (conditions.map Condition.toJson)) ::
          member? "observedGeneration" (generation.map .ofInt64) := by
  cases generation <;> simp [mergeMembers, mergePatch, without, member?, ofInt64]

end Json

/-- A resource whose status was patched reads as before, with the status that was sent. -/
theorem Operator.ofJson_mergePatch_status {members : List (String × Json)} {operator : Operator}
    (readable : ofJson (.object members) = .ok operator) (conditions : List Condition)
    (generation : Option Int64) :
    ofJson (Json.mergePatch (some (.object members))
        (.object [("status", Cluster.statusPatch conditions generation)])) =
      .ok { operator with status := some ⟨conditions, generation⟩ } := by
  have merged : ∀ held : List (String × Json),
      OperatorStatus.ofJson (.object (Json.mergeMembers held
        [("conditions", .array (conditions.map Condition.toJson)),
          ("observedGeneration", generation.elim .null .ofInt64)])) =
        .ok ⟨conditions, generation⟩ := by
    intro held
    rw [Json.mergeMembers_status]
    refine OperatorStatus.ofJson_members ?_ ⟨conditions, generation⟩
    intro member inside
    simp only [Json.without, List.mem_filter, decide_eq_true_eq] at inside
    simp [OperatorStatus.outline, inside.1.2, inside.2]
  unfold Cluster.statusPatch
  rw [Json.mergePatch_member]
  exact ofJson_replace_status readable (merged _)

namespace Cluster

open Api
open Condition (mergeAll Says)

/-- The server as far as the operator resource goes, and the clock. -/
structure Server where
  name : String
  clock : Nat → String
  /-- What the server puts down in the metadata of a resource that was patched. -/
  mark : List (String × Json) → List (String × Json)
  marked : ∀ {members : List (String × Json)} {operator : Operator},
    Operator.ofJson (.object members) = .ok operator →
      ∃ metadata, Operator.ofJson (.object (mark members)) = .ok { operator with metadata } ∧
        metadata.generation = operator.metadata.generation

/-- The members of the resource, the requests that came, and how often the clock was read. -/
structure Site where
  resource : List (String × Json)
  requests : List Request := []
  ticks : Nat := 0

namespace Site

def read (site : Site) : Decoded Operator :=
  Operator.ofJson (.object site.resource)

def patches (site : Site) : Nat :=
  site.requests.countP (·.method = .patch)

def noted (site : Site) (request : Request) : Site :=
  { site with requests := site.requests ++ [request] }

theorem patches_noted (site : Site) (request : Request) :
    (site.noted request).patches = site.patches + if request.method = .patch then 1 else 0 := by
  unfold patches noted
  rw [List.countP_append, List.countP_singleton]
  simp

end Site

namespace Server

/-- Answer a request for the resource or its status; there is nothing else here. -/
def serve (server : Server) (request : Request) (site : Site) : Response × Site :=
  if request.method = .get ∧
      Target.parse? (Collection.operators ++ "/" ++ server.name) = some request.target then
    (⟨200, .json (.object site.resource)⟩, site)
  else if request.method = .patch ∧ request.contentType = some "application/merge-patch+json" ∧
      statusTarget Collection.operators server.name = some request.target then
    let patch := request.body.getD (.object [])
    let merged := server.mark (Json.mergePatch (some (.object site.resource)) patch).members
    (⟨200, .json (.object merged)⟩, { site with resource := merged })
  else (⟨404, .text "page not found"⟩, site)

def answer (server : Server) : (question : Question) → StateM Site question.Reply
  | .exchange request => do
      modify fun site => site.noted request
      let response ← modifyGet (server.serve request)
      return .ok response
  | .now => modifyGet fun site => (server.clock site.ticks, { site with ticks := site.ticks + 1 })
  | .cached _ => return none
  | .manifest => return none
  | .isShuttingDown => return false
  | .observe _ => return ()

variable {server : Server} {site : Site} {read : Request}

theorem serve_read (addressed : Request.read Collection.operators server.name = .ok read)
    (site : Site) : server.serve read site = (⟨200, .json (.object site.resource)⟩, site) := by
  obtain ⟨-, target, readable, rfl⟩ := request_of_read addressed
  exact if_pos ⟨rfl, readable⟩

theorem serve_patch {target : Target} {body : Json}
    (addressed : statusTarget Collection.operators server.name = some target) (site : Site) :
    let merged := server.mark (Json.mergePatch (some (.object site.resource)) body).members
    server.serve ⟨.patch, target, some "application/merge-patch+json", some body⟩ site =
      (⟨200, .json (.object merged)⟩, { site with resource := merged }) := by
  intro merged
  unfold serve
  rw [if_neg (by simp), if_pos ⟨rfl, rfl, addressed⟩]
  rfl

theorem run_perform {α : Type} (request : Request) (decode : Json → Decoded α) (site : Site) :
    ((perform (.ok request) decode).interpret server.answer).run site =
      (outcome decode (.ok (server.serve request (site.noted request)).1),
        (server.serve request (site.noted request)).2) :=
  rfl

theorem outcome_json {α : Type} (read : Json → Decoded α) (value : Json) :
    outcome read (.ok ⟨200, .json value⟩) = decode read value :=
  rfl

theorem outcome_of_readable {members : List (String × Json)} {operator : Operator}
    (readable : Operator.ofJson (.object members) = .ok operator) :
    outcome Operator.ofJson (.ok ⟨200, .json (.object members)⟩) = .ok operator :=
  congrArg (Except.mapError _) readable

theorem run_readOperator (addressed : Request.read Collection.operators server.name = .ok read)
    (site : Site) :
    ((readOperator server.name).interpret server.answer).run site =
      (raise (decode Operator.ofJson (.object site.resource)), site.noted read) := by
  unfold readOperator readOptional
  rw [Interaction.run_interpret_bind, Interaction.run_interpret_bind, addressed, run_perform,
    serve_read addressed, outcome_json]
  unfold decode Site.noted
  cases Operator.ofJson (.object site.resource) <;> rfl

theorem run_readOperator_of_readable
    (addressed : Request.read Collection.operators server.name = .ok read) {operator : Operator}
    (held : site.read = .ok operator) :
    ((readOperator server.name).interpret server.answer).run site =
      (.ok operator, site.noted read) := by
  have readable : raise (decode Operator.ofJson (.object site.resource)) = .ok operator :=
    congrArg (fun found => raise (Except.mapError _ found)) held
  rw [run_readOperator addressed, readable]

theorem run_readMode (addressed : Request.read Collection.operators server.name = .ok read)
    {operator : Operator} (held : site.read = .ok operator) :
    ((readMode server.name).interpret server.answer).run site =
      (.ok operator.spec.managementState, site.noted read) := by
  unfold readMode
  rw [Interaction.run_interpret_bind, run_readOperator_of_readable addressed held]
  rfl

/-- Whoever was told a mode has read the resource. -/
theorem exists_of_readMode {mode : ManagementState}
    (told : (((readMode server.name).interpret server.answer).run site).1 = .ok mode) :
    ∃ read operator, Request.read Collection.operators server.name = .ok read ∧
      site.read = .ok operator ∧ operator.spec.managementState = mode := by
  unfold readMode at told
  rw [Interaction.run_interpret_bind] at told
  cases addressed : Request.read Collection.operators server.name with
  | error failure =>
      have unread : (((readOperator server.name).interpret server.answer).run site).1 =
          .error (unreadOperator server.name failure) := by
        obtain ⟨found, performed, replied⟩ := performed_of_readOperator
          (Interaction.yields_transcriptIn (readOperator server.name) site)
        rw [addressed] at performed
        obtain ⟨-, rfl⟩ := (perform_yields_iff _ _ _ _).mp performed
        exact replied
      rw [unread] at told
      cases told
  | ok read =>
      rw [run_readOperator addressed] at told
      cases held : site.read with
      | error cause =>
          have unread : raise (decode Operator.ofJson (.object site.resource)) =
              .error (.cluster (.unreadable (.content cause))) :=
            congrArg (fun found => raise (Except.mapError _ found)) held
          rw [unread] at told
          cases told
      | ok operator =>
          have readable : raise (decode Operator.ofJson (.object site.resource)) = .ok operator :=
            congrArg (fun found => raise (Except.mapError _ found)) held
          rw [readable] at told
          cases told
          exact ⟨read, operator, rfl, rfl, rfl⟩

/-- Conditions are merged with readings of the clock, and nothing else happens to the site. -/
theorem run_mergeConditions (server : Server) (existing conditions : List Condition) (site : Site) :
    ∃ times : List String, times.length = conditions.length ∧
      ((mergeConditions existing conditions).interpret server.answer).run site =
        (mergeAll existing (conditions.zip times),
          { site with ticks := site.ticks + conditions.length }) := by
  induction conditions generalizing existing site with
  | nil => exact ⟨[], rfl, rfl⟩
  | cons condition rest ih =>
      obtain ⟨times, timed, ran⟩ :=
        ih (Condition.setIn existing condition (server.clock site.ticks))
          { site with ticks := site.ticks + 1 }
      refine ⟨server.clock site.ticks :: times, congrArg (· + 1) timed, ?_⟩
      refine Eq.trans ?_ (ran.trans ?_)
      · rfl
      · rw [Nat.add_assoc, Nat.add_comm 1]
        rfl

/-- What became of a site on which conditions were written, if the resource was read as `operator`. -/
structure Written (operator : Operator) (conditions : List Condition) (before after : Site) :
    Prop where
  upToDate : UpToDate operator conditions →
    after.resource = before.resource ∧ after.patches = before.patches
  once : after.patches ≤ before.patches + 1
  said : ∃ later, after.read = .ok later ∧ later.spec = operator.spec ∧ UpToDate later conditions

/-- The resource after it was patched with merged conditions, as it is read back. -/
theorem upToDate_of_patched {members : List (String × Json)} {operator : Operator}
    (readable : Operator.ofJson (.object members) = .ok operator) {conditions : List Condition}
    (distinct : (conditions.map Condition.type).Nodup) {times : List String}
    (timed : times.length = conditions.length) :
    ∃ later, Operator.ofJson (.object (server.mark (Json.mergePatch (some (.object members))
        (.object [("status", statusPatch (mergeAll (reported operator) (conditions.zip times))
          operator.metadata.generation)])).members)) = .ok later ∧
      later.spec = operator.spec ∧ UpToDate later conditions := by
  obtain ⟨metadata, marked, generation⟩ := server.marked (Operator.ofJson_mergePatch_status readable
    (mergeAll (reported operator) (conditions.zip times)) operator.metadata.generation)
  refine ⟨_, marked, rfl, ?_, generation.symm⟩
  have said := Condition.said_mergeAll (reported operator) (nodup_writtenTypes_zip distinct timed)
  rwa [← List.forall_mem_map, List.map_fst_zip (Nat.le_of_eq timed.symm)] at said

theorem run_writeConditions
    (addressed : Request.read Collection.operators server.name = .ok read) {operator : Operator}
    (held : site.read = .ok operator) {conditions : List Condition}
    (distinct : (conditions.map Condition.type).Nodup) :
    ∃ after, ((writeConditions server.name conditions).interpret server.answer).run site =
      (.ok (), after) ∧ Written operator conditions site after := by
  obtain ⟨times, timed, merged⟩ :=
    run_mergeConditions server (reported operator) conditions (site.noted read)
  have current := @upToDate_iff operator conditions times distinct timed
  have looked : (site.noted read).patches = site.patches := by
    obtain ⟨-, target, -, rfl⟩ := request_of_read addressed
    exact site.patches_noted _
  unfold writeConditions
  rw [Interaction.run_interpret_bind, run_readOperator_of_readable addressed held]
  dsimp only
  rw [Interaction.run_interpret_bind, merged]
  dsimp only
  split
  · next unchanged =>
      exact ⟨_, rfl, fun _ => ⟨rfl, looked⟩, by rw [← looked]; exact Nat.le_succ _,
        operator, held, rfl, current.mp unchanged⟩
  · next changed =>
      obtain ⟨target, written, built⟩ := mergeStatus_of_read addressed
        (statusPatch (mergeAll (reported operator) (conditions.zip times))
          operator.metadata.generation)
      obtain ⟨later, readable, spec, said⟩ :=
        @upToDate_of_patched server _ _ held _ distinct _ timed
      rw [Interaction.run_interpret_bind, built, run_perform, serve_patch written]
      have accepted := congrArg (fun patched => raise (patched.map fun _ => ()))
        (outcome_of_readable readable)
      refine ⟨_, Prod.ext accepted rfl, fun upToDate => absurd (current.mpr upToDate) changed, ?_,
        later, readable, spec, said⟩
      rw [← looked]
      exact Nat.le_of_eq (Site.patches_noted _ _)

end Server

end Cluster

end Registrar
