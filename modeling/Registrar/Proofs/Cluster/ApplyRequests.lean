import Registrar.Proofs.Cluster.Exchanges
import Registrar.Proofs.Cluster.StatusServer
/-!
# The request that applies a registration

An apply looks into the cache and sends one request at most. What it sends tells what the operator
wants of a registration, and nothing of what the server alone decides. It goes to the name of the
registration, provided that this name can stand in a target; the parts of a target are not escaped.
-/

set_option autoImplicit false

namespace Registrar

namespace Api

/-- A name that can stand in a path as it is. -/
structure PlainName (name : String) : Prop where
  named : name ≠ ""
  characters : name.toList.all isPathChar = true

theorem ne_of_isPathChar {c : Char} (path : isPathChar c = true) : c ≠ '#' ∧ c ≠ '?' := by
  constructor <;> rintro rfl <;> revert path <;> decide

theorem ne_of_isParameterChar {c : Char} (parameter : isParameterChar c = true) : c ≠ '#' := by
  rintro rfl
  revert parameter
  decide

/-- A target is read as it was put together. -/
theorem Target.parse?_path {path query : String} (characters : path.toList.all isPathChar = true)
    (parameters : query.toList.all isParameterChar = true) :
    Target.parse? (path ++ ("?" ++ query)) = some
      ⟨path, ((splitAt '&' query.toList).filter (!·.isEmpty)).map String.ofList⟩ := by
  have spelled : (path ++ ("?" ++ query)).toList = path.toList ++ '?' :: query.toList := by
    simp
  have inPath : ∀ c ∈ path.toList, (decide (c ≠ '?')) = true := fun c member =>
    decide_eq_true (ne_of_isPathChar (List.all_eq_true.mp characters c member)).2
  have unended : ∀ c ∈ path.toList ++ '?' :: query.toList, (decide (c ≠ '#')) = true := by
    intro c member
    rcases List.mem_append.mp member with member | member
    · exact decide_eq_true (ne_of_isPathChar (List.all_eq_true.mp characters c member)).1
    · rcases List.mem_cons.mp member with rfl | member
      · decide
      · exact decide_eq_true (ne_of_isParameterChar (List.all_eq_true.mp parameters c member))
  have whole : (path.toList ++ '?' :: query.toList).takeWhile (· ≠ '#') =
      path.toList ++ '?' :: query.toList := by
    rw [← List.append_nil (path.toList ++ '?' :: query.toList),
      List.takeWhile_append_of_pos unended, List.takeWhile_nil]
  unfold Target.parse?
  dsimp only
  rw [spelled, whole, List.takeWhile_append_of_pos inPath, List.dropWhile_append_of_pos inPath]
  simp [characters, parameters]

namespace Request

def plainApply (collection name : String) (object : Json) : Request :=
  ⟨.patch, ⟨collection ++ "/" ++ name, ["fieldManager=apiservice-operator", "force=true"]⟩,
    some "application/apply-patch+yaml", some object⟩

theorem apply_of_plain {collection name : String}
    (characters : collection.toList.all isPathChar = true) (plain : PlainName name) (object : Json) :
    Request.apply collection name object = .ok (plainApply collection name object) := by
  have path : (collection ++ "/" ++ name).toList.all isPathChar = true := by
    rw [String.toList_append, String.toList_append, List.all_append, List.all_append, characters,
      plain.characters]
    decide
  have parameters : ("&".intercalate [ownership, "force=true"]).toList.all isParameterChar = true :=
    by decide
  have parsed := Target.parse?_path path parameters
  unfold Request.apply buildFor build plainApply
  rw [if_neg plain.named, String.append_empty]
  dsimp only
  rw [if_neg (by decide), parsed]
  rfl

theorem form_of_apply {collection name : String} {object : Json} {request : Request}
    (built : Request.apply collection name object = .ok request) :
    request.method = .patch ∧ request.contentType = some "application/apply-patch+yaml" ∧
      request.body = some object := by
  unfold Request.apply buildFor build at built
  dsimp only at built
  split at built
  · cases built
  · split at built
    · cases built
    · cases built
      exact ⟨rfl, rfl, rfl⟩

theorem apply_of_unreadable {collection name : String} (named : name ≠ "")
    (unreadable : Target.parse? (collection ++ "/" ++ name ++
      ("?" ++ "&".intercalate [ownership, "force=true"])) = none) (object : Json) :
    Request.apply collection name object = .error .invalidPath := by
  unfold Request.apply buildFor build
  rw [if_neg named, String.append_empty]
  dsimp only
  rw [if_neg (by decide), unreadable]

end Request

end Api

namespace Json

/-- What is left of an object without its status and, in its metadata, without its version and its
managed fields. -/
def wanted (value : Json) : Json :=
  object ((without value.members "status").map fun member =>
    if member.1 = "metadata" then
      (member.1, object (without (without member.2.members "resourceVersion") "managedFields"))
    else member)

theorem without_append (first last : List (String × Json)) (name : String) :
    without (first ++ last) name = without first name ++ without last name :=
  List.filter_append first last

theorem without_member? (name other : String) (value : Option Json) :
    without (member? name value) other = if name = other then [] else member? name value := by
  cases value with
  | none => simp [without, member?]
  | some value => by_cases same : name = other <;> simp [without, member?, same]

theorem member?_none (name : String) : member? name none = [] :=
  rfl

theorem members_object (members : List (String × Json)) : (object members).members = members :=
  rfl

end Json

open Json (without without_append without_member? member?_none members_object)

theorem Metadata.toJson_eq_object (metadata : Metadata) :
    metadata.toJson = .object metadata.toJson.members :=
  rfl

theorem Metadata.members_toJson_without (metadata : Metadata) :
    without (without metadata.toJson.members "resourceVersion") "managedFields" =
      { metadata with resourceVersion := none, managedFields := none }.toJson.members := by
  simp [Metadata.toJson, members_object, without_append, without_member?, member?_none]

/-- What is sent of a registration can be told from what would be written of it as a whole. -/
theorem Registration.toJson_withoutServerState (registration : Registration) :
    registration.withoutServerState.toJson = registration.toJson.wanted := by
  have kept : ∀ version kind metadata spec : Json,
      without [("apiVersion", version), ("kind", kind), ("metadata", metadata), ("spec", spec)]
        "status" =
      [("apiVersion", version), ("kind", kind), ("metadata", metadata), ("spec", spec)] := by
    simp [without]
  unfold Json.wanted Registration.toJson
  rw [members_object, without_append, without_member?, if_pos rfl, List.append_nil, kept]
  simp [withoutServerState, member?_none, Metadata.members_toJson_without,
    ← Metadata.toJson_eq_object]

namespace Cluster

open Api
open Registrar.Cycle (Applied)

def requestFor (desired : Registration) : Except ClusterFailure Request :=
  Request.apply Collection.registrations desired.name desired.withoutServerState.toJson

def patchOf (desired : Registration) : Request :=
  Request.plainApply Collection.registrations desired.name desired.toJson.wanted

theorem requestFor_of_plain {desired : Registration} (plain : PlainName desired.name) :
    requestFor desired = .ok (patchOf desired) := by
  unfold requestFor patchOf
  rw [Registration.toJson_withoutServerState]
  exact Request.apply_of_plain (by decide) plain _

theorem form_of_requestFor {desired : Registration} {request : Request}
    (built : requestFor desired = .ok request) :
    request.method = .patch ∧ request.contentType = some "application/apply-patch+yaml" ∧
      request.body = some desired.toJson.wanted := by
  rw [← Registration.toJson_withoutServerState]
  exact Request.form_of_apply built

theorem hasChanged_eq_false_iff (before after : Option String) :
    hasChanged before after = false ↔ ∃ version, before = some version ∧ after = some version := by
  cases before with
  | none => simp [hasChanged]
  | some before =>
      cases after with
      | none => simp [hasChanged]
      | some after =>
          have told : hasChanged (some before) (some after) = false ↔ before = after := by
            simp [hasChanged]
          rw [told]
          constructor
          · rintro rfl
            exact ⟨before, rfl, rfl⟩
          · rintro ⟨version, first, last⟩
            exact Option.some.inj (first.trans last.symm)

/-- The cached object has the version that the stored one has now. -/
def SameVersion (cached : Option Registration) (stored : Registration) : Prop :=
  ∃ held version, cached = some held ∧ held.metadata.resourceVersion = some version ∧
    stored.metadata.resourceVersion = some version

theorem hasChanged_cached_eq_false_iff (cached : Option Registration) (stored : Registration) :
    hasChanged (cached.bind fun object => object.metadata.resourceVersion)
        stored.metadata.resourceVersion = false ↔ SameVersion cached stored := by
  rw [hasChanged_eq_false_iff]
  cases cached with
  | none => simp [SameVersion]
  | some held => simp [SameVersion]

/-- What an apply makes of the reply to its request, if the cache held `cached`. -/
inductive Concludes (cached : Option Registration) (reply : Except String Response) :
    Except Failure Applied → Prop where
  | failed {failure : ClusterFailure} : outcome Registration.ofJson reply = .error failure →
      Concludes cached reply (.error (.cluster failure))
  | applied {stored : Registration} {changed : Bool} :
      outcome Registration.ofJson reply = .ok stored →
      (changed = false ↔ SameVersion cached stored) →
      Concludes cached reply (.ok ⟨stored, changed⟩)

theorem concludes_iff (cached : Option Registration) (reply : Except String Response)
    (result : Except Failure Applied) :
    Concludes cached reply result ↔
      result = raise ((outcome Registration.ofJson reply).map fun stored =>
        ⟨stored, hasChanged (cached.bind fun object => object.metadata.resourceVersion)
          stored.metadata.resourceVersion⟩) := by
  constructor
  · intro concludes
    cases concludes with
    | failed refused =>
        rw [refused]
        rfl
    | @applied stored changed answered told =>
        have same : changed = hasChanged (cached.bind fun object => object.metadata.resourceVersion)
            stored.metadata.resourceVersion := by
          rw [← hasChanged_cached_eq_false_iff] at told
          exact Bool.eq_iff_iff.mpr (by simpa using not_congr told)
        rw [answered, same]
        rfl
  · rintro rfl
    cases answered : outcome Registration.ofJson reply with
    | error failure => exact .failed answered
    | ok stored => exact .applied answered (hasChanged_cached_eq_false_iff cached stored)

theorem applyRegistration_yields_iff (desired : Registration) (transcript : Transcript questions)
    (result : Except Failure Applied) :
    (applyRegistration desired).Yields transcript result ↔
      ∃ cached rest stored, transcript = ⟨.cached desired.name, cached⟩ :: rest ∧
        (perform (requestFor desired) Registration.ofJson).Yields rest stored ∧
        result = raise (stored.map fun object =>
          ⟨object, hasChanged (cached.bind fun object => object.metadata.resourceVersion)
            object.metadata.resourceVersion⟩) := by
  unfold applyRegistration
  constructor
  · intro ran
    obtain ⟨_, cached, _, rfl, asked, later⟩ := (Interaction.yields_bind_iff _ _ _ _).mp ran
    obtain rfl := (yields_ask_iff (.cached desired.name) _ cached).mp asked
    obtain ⟨rest, stored, _, rfl, performed, ended⟩ :=
      (Interaction.yields_bind_iff _ _ _ _).mp later
    obtain ⟨rfl, rfl⟩ := (Interaction.yields_done_iff _ _ _).mp ended
    exact ⟨cached, rest, stored, by simp, performed, rfl⟩
  · rintro ⟨cached, rest, stored, rfl, performed, rfl⟩
    refine (Interaction.yields_bind_iff _ _ _ _).mpr ⟨[⟨.cached desired.name, cached⟩], cached, rest,
      rfl, (yields_ask_iff (.cached desired.name) _ cached).mpr rfl, ?_⟩
    exact (Interaction.yields_bind_iff _ _ _ _).mpr ⟨rest, stored, [], by simp, performed, .done _⟩

theorem applyRegistration_yields_iff_of_built {desired : Registration} {request : Request}
    (built : requestFor desired = .ok request) (transcript : Transcript questions)
    (result : Except Failure Applied) :
    (applyRegistration desired).Yields transcript result ↔
      ∃ cached reply, transcript =
          [⟨.cached desired.name, cached⟩, ⟨.exchange request, reply⟩] ∧
        Concludes cached reply result := by
  simp only [applyRegistration_yields_iff, built, perform_yields_iff, concludes_iff]
  constructor
  · rintro ⟨cached, _, _, rfl, ⟨reply, rfl, rfl⟩, rfl⟩
    exact ⟨cached, reply, rfl, rfl⟩
  · rintro ⟨cached, reply, rfl, rfl⟩
    exact ⟨cached, _, _, rfl, ⟨reply, rfl, rfl⟩, rfl⟩

/-- Where no request can be built, the cache is looked into in vain. -/
theorem applyRegistration_yields_iff_of_unbuilt {desired : Registration} {failure : ClusterFailure}
    (unbuilt : requestFor desired = .error failure) (transcript : Transcript questions)
    (result : Except Failure Applied) :
    (applyRegistration desired).Yields transcript result ↔
      ∃ cached, transcript = [⟨.cached desired.name, cached⟩] ∧
        result = .error (.cluster failure) := by
  simp only [applyRegistration_yields_iff, unbuilt, perform_yields_iff]
  constructor
  · rintro ⟨cached, _, _, rfl, ⟨rfl, rfl⟩, rfl⟩
    exact ⟨cached, rfl, rfl⟩
  · rintro ⟨cached, rfl, rfl⟩
    exact ⟨cached, _, _, rfl, ⟨rfl, rfl⟩, rfl⟩

end Cluster

end Registrar
