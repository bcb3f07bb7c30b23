import Registrar.Proofs.Cluster.ApplyRequests
import Registrar.Proofs.Cycle.Resolution
import Registrar.Proofs.RoundTrip.Objects
/-!
# What applies tell of changes

The server gives every object a version, and another one whenever the object is created or comes to
be different. If the cache is up to date when a registration is applied, comparing two versions
tells whether the apply has made a difference.
-/

set_option autoImplicit false

namespace Registrar.Cluster

open Api
open Registrar.Cycle (Applied)

/-- An object as the server has it. -/
structure Stored where
  value : Json
  registration : Registration
  readable : Registration.ofJson value = .ok registration
  version : String
  versioned : registration.metadata.resourceVersion = some version

theorem Stored.eq_of_value {first last : Stored} (same : first.value = last.value) :
    first = last := by
  obtain ⟨value, registration, readable, version, versioned⟩ := first
  obtain ⟨other, _, likewise, _, alsoVersioned⟩ := last
  cases (show value = other from same)
  cases readable.symm.trans likewise
  cases versioned.symm.trans alsoVersioned
  rfl

abbrev Stock :=
  String → Option Stored

/-- How the server takes a request that applies an object. If it fails for the caller, anything may
have come of it. -/
inductive Serves (before after : Stock) (request : Request) : Except String Response → Prop where
  | stored {name : String} {response : Response} {object : Stored} :
      request.target.path = Collection.registrations ++ "/" ++ name →
      accept response = .ok object.value →
      (∀ held, before name = some held →
        (object.version = held.version ↔ object.value = held.value)) →
      after name = some object → (∀ other, other ≠ name → after other = before other) →
      Serves before after request (.ok response)
  | failed {reply : Except String Response} {failure : ClusterFailure} :
      outcome Registration.ofJson reply = .error failure →
      Serves before after request reply

/-- What an apply is told: its cache shows what the server has at present, and its request is served
from there. -/
def Reflects (before after : Stock) : Exchange questions → Prop
  | ⟨.cached name, cached⟩ => cached = (before name).map Stored.registration
  | ⟨.exchange request, reply⟩ => Serves before after request reply
  | _ => True

structure Turn where
  desired : Registration
  result : Except Failure Applied
  before : Stock
  after : Stock

/-- The registration existed, and is left as it was. -/
def Turn.Kept (turn : Turn) : Prop :=
  ∃ object, turn.before turn.desired.name = some object ∧
    turn.after turn.desired.name = some object

/-- If anything is sent, it goes to the name of the registration. -/
def Addressed (desired : Registration) : Prop :=
  ∀ request, requestFor desired = .ok request →
    request.target.path = Collection.registrations ++ "/" ++ desired.name

theorem addressed_of_plain {desired : Registration} (plain : PlainName desired.name) :
    Addressed desired := by
  intro request built
  cases built.symm.trans (requestFor_of_plain plain)
  rfl

/-- Applies one after the other, between which other clients may change whatever they want. -/
inductive Runs : Stock → List Turn → Stock → Prop where
  | nil (stock : Stock) : Runs stock [] stock
  | others {first next last : Stock} {turns : List Turn} :
      Runs next turns last → Runs first turns last
  | applied {turn : Turn} {transcript : Transcript questions} {turns : List Turn} {last : Stock} :
      Addressed turn.desired →
      (applyRegistration turn.desired).Yields transcript turn.result →
      (∀ exchange ∈ transcript, Reflects turn.before turn.after exchange) →
      Runs turn.after turns last →
      Runs turn.before (turn :: turns) last

theorem sameVersion_iff (held : Option Stored) (object : Stored) :
    SameVersion (held.map Stored.registration) object.registration ↔
      ∃ before, held = some before ∧ object.version = before.version := by
  cases held with
  | none => simp [SameVersion]
  | some before => simp [SameVersion, before.versioned, object.versioned, eq_comm]

theorem exists_requestFor {desired : Registration} {transcript : Transcript questions}
    {applied : Applied} (yields : (applyRegistration desired).Yields transcript (.ok applied)) :
    ∃ request, requestFor desired = .ok request := by
  cases built : requestFor desired with
  | ok request => exact ⟨request, rfl⟩
  | error failure =>
      obtain ⟨_, _, failed⟩ := (applyRegistration_yields_iff_of_unbuilt built _ _).mp yields
      cases failed

/-- One apply tells that nothing has changed just if it has left the registration as it was. -/
theorem Turn.changed_eq_false_iff {turn : Turn} (addressed : Addressed turn.desired)
    {transcript : Transcript questions}
    (yields : (applyRegistration turn.desired).Yields transcript turn.result)
    (reflects : ∀ exchange ∈ transcript, Reflects turn.before turn.after exchange) {applied : Applied}
    (went : turn.result = .ok applied) : applied.changed = false ↔ turn.Kept := by
  rw [went] at yields
  obtain ⟨request, built⟩ := exists_requestFor yields
  obtain ⟨cached, reply, rfl, concludes⟩ :=
    (applyRegistration_yields_iff_of_built built _ _).mp yields
  have looked : cached = (turn.before turn.desired.name).map Stored.registration :=
    reflects _ (.head _)
  have serves : Serves turn.before turn.after request reply :=
    reflects ⟨.exchange request, reply⟩ (.tail _ (.head _))
  cases concludes with
  | @applied stored changed answered told =>
      cases serves with
      | failed refused => cases answered.symm.trans refused
      | @stored name response object target accepted moves now _ =>
          have same : turn.desired.name = name :=
            (String.append_right_inj _).mp ((addressed request built).symm.trans target)
          subst same
          cases answered.symm.trans (outcome_of_accepted accepted object.readable)
          -- the version is in the object, so objects of one version are the same
          rw [told, looked, sameVersion_iff]
          unfold Turn.Kept
          constructor
          · rintro ⟨held, before, unmoved⟩
            have kept := Stored.eq_of_value ((moves held before).mp unmoved)
            exact ⟨held, before, kept ▸ now⟩
          · rintro ⟨held, before, after⟩
            cases now.symm.trans after
            exact ⟨object, before, rfl⟩

theorem Runs.changed_eq_false_iff {first last : Stock} {turns : List Turn}
    (runs : Runs first turns last) {turn : Turn} (member : turn ∈ turns) {applied : Applied}
    (went : turn.result = .ok applied) : applied.changed = false ↔ turn.Kept := by
  induction runs with
  | nil => cases member
  | others _ ih => exact ih member
  | applied addressed yields reflects _ ih =>
      rcases List.mem_cons.mp member with rfl | member
      · exact Turn.changed_eq_false_iff addressed yields reflects went
      · exact ih member

/-- How one registration is applied, for every cache and every reply. -/
structure Contract (desired : Registration) : Prop where
  /-- A plain name is addressed as it is, with what is wanted of its registration. -/
  plain : PlainName desired.name → requestFor desired = .ok (patchOf desired)
  sent : ∀ request, requestFor desired = .ok request →
    (request.method = .patch ∧ request.contentType = some "application/apply-patch+yaml" ∧
      request.body = some desired.toJson.wanted) ∧
    ∀ transcript result, (applyRegistration desired).Yields transcript result ↔
      ∃ cached reply, transcript =
          [⟨.cached desired.name, cached⟩, ⟨.exchange request, reply⟩] ∧
        Concludes cached reply result
  /-- Nothing is sent if the name cannot stand in any target. -/
  unsent : ∀ failure, requestFor desired = .error failure →
    ∀ transcript result, (applyRegistration desired).Yields transcript result ↔
      ∃ cached, transcript = [⟨.cached desired.name, cached⟩] ∧ result = .error (.cluster failure)
  /-- What the server alone decides makes no difference to the request. -/
  alike : ∀ status version fields, requestFor { desired with
      status := status
      metadata := { desired.metadata with resourceVersion := version, managedFields := fields } } =
    requestFor desired

theorem contract (desired : Registration) : Contract desired where
  plain := requestFor_of_plain
  sent := fun _ built => ⟨form_of_requestFor built, applyRegistration_yields_iff_of_built built⟩
  unsent := fun _ => applyRegistration_yields_iff_of_unbuilt
  alike := fun _ _ _ => rfl

/-- Every apply sends what is wanted of its registration under its name, and tells of the reply. If
the cache is up to date each time, it tells that nothing has changed just where that is so. -/
theorem applies_report_changes :
    (∀ desired, Contract desired) ∧
      ∀ first turns last, Runs first turns last → ∀ turn ∈ turns, ∀ applied,
        turn.result = .ok applied → (applied.changed = false ↔ turn.Kept) := by
  refine ⟨contract, ?_⟩
  intro first turns last runs turn member applied went
  exact runs.changed_eq_false_iff member went

def sampleStored (version : String) : Stored where
  value := { sampleRegistration "v1" with
    metadata := { (sampleRegistration "v1").metadata with
      resourceVersion := some version } : Registration }.toJson
  registration := { sampleRegistration "v1" with
    metadata := { (sampleRegistration "v1").metadata with resourceVersion := some version } }
  readable := Registration.ofJson_toJson ⟨nofun, nofun, nofun, nofun, nofun⟩ nofun
  version := version
  versioned := rfl

def sampleStock (version : String) : Stock := fun name =>
  if name = (sampleRegistration "v1").name then some (sampleStored version) else none

def sampleTurn (before : Stock) (version : String) (changed : Bool) : Turn where
  desired := sampleRegistration "v1"
  result := .ok ⟨(sampleStored version).registration, changed⟩
  before := before
  after := sampleStock version

def sampleTranscript (before : Stock) (version : String) : Transcript questions :=
  [⟨.cached (sampleRegistration "v1").name,
      (before (sampleRegistration "v1").name).map Stored.registration⟩,
    ⟨.exchange (patchOf (sampleRegistration "v1")), .ok ⟨200, .json (sampleStored version).value⟩⟩]

theorem plainName_sample : PlainName (sampleRegistration "v1").name :=
  ⟨by decide, by decide⟩

theorem yields_sampleTurn {before : Stock} {version : String} {changed : Bool}
    (told : changed = false ↔ ∃ held, before (sampleRegistration "v1").name = some held ∧
      version = held.version) :
    (applyRegistration (sampleRegistration "v1")).Yields (sampleTranscript before version)
      (sampleTurn before version changed).result :=
  (applyRegistration_yields_iff_of_built (requestFor_of_plain plainName_sample) _ _).mpr
    ⟨_, _, rfl, .applied (outcome_of_accepted rfl (sampleStored version).readable)
      (told.trans (sameVersion_iff _ (sampleStored version)).symm)⟩

theorem reflects_sampleTurn {before : Stock} {version : String}
    (alone : ∀ name, name ≠ (sampleRegistration "v1").name → before name = none)
    (moves : ∀ held, before (sampleRegistration "v1").name = some held →
      (version = held.version ↔ (sampleStored version).value = held.value)) :
    ∀ exchange ∈ sampleTranscript before version,
      Reflects before (sampleStock version) exchange := by
  refine List.forall_mem_cons.mpr ⟨rfl, List.forall_mem_singleton.mpr ?_⟩
  refine .stored rfl rfl moves (if_pos rfl) fun other different => ?_
  exact (if_neg different).trans (alone other different).symm

def sampleTurns : List Turn :=
  [sampleTurn (fun _ => none) "1" true, sampleTurn (sampleStock "1") "1" false]

theorem runs_sampleTurns : Runs (fun _ => none) sampleTurns (sampleStock "1") := by
  have held : ∀ object, sampleStock "1" (sampleRegistration "v1").name = some object →
      object = sampleStored "1" := fun object present =>
    (Option.some.inj ((if_pos rfl).symm.trans present)).symm
  have second : Runs (sampleStock "1") [sampleTurn (sampleStock "1") "1" false]
      (sampleStock "1") := by
    refine @Runs.applied (sampleTurn (sampleStock "1") "1" false) _ _ _
      (addressed_of_plain plainName_sample) (yields_sampleTurn ?_)
      (reflects_sampleTurn (fun _ different => if_neg different) ?_) (.nil _)
    · exact iff_of_true rfl ⟨sampleStored "1", if_pos rfl, rfl⟩
    · rintro object present
      rw [held object present]
      exact iff_of_true rfl rfl
  exact @Runs.applied (sampleTurn (fun _ => none) "1" true) _ _ _
    (addressed_of_plain plainName_sample) (yields_sampleTurn (by simp))
    (reflects_sampleTurn (fun _ _ => rfl) (by simp)) second

/-- A registration is created, and then applied once more to no effect. -/
theorem applies_report_changes_sample :
    Runs (fun _ => none) sampleTurns (sampleStock "1") ∧
      ¬ (sampleTurn (fun _ => none) "1" true).Kept ∧
      (sampleTurn (sampleStock "1") "1" false).Kept := by
  have told := applies_report_changes.2 _ _ _ runs_sampleTurns
  refine ⟨runs_sampleTurns, fun kept => ?_, ?_⟩
  · exact absurd ((told _ (.head _) _ rfl).mpr kept) (by decide)
  · exact (told _ (.tail _ (.head _)) _ rfl).mp rfl

/-- A name with a blank is not empty, but nothing can be sent to it. -/
theorem blank_name_is_not_sent :
    (sampleRegistration "v 1").name ≠ "" ∧ ∀ transcript result,
      (applyRegistration (sampleRegistration "v 1")).Yields transcript result →
        sent transcript = [] ∧ result = .error (.cluster .invalidPath) := by
  refine ⟨by decide, fun transcript result yields => ?_⟩
  have unbuilt : requestFor (sampleRegistration "v 1") = .error .invalidPath :=
    Request.apply_of_unreadable (by decide) (by decide +kernel) _
  obtain ⟨cached, rfl, rfl⟩ := (applyRegistration_yields_iff_of_unbuilt unbuilt _ _).mp yields
  exact ⟨rfl, rfl⟩

end Registrar.Cluster
