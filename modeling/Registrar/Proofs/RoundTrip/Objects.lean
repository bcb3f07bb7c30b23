import Registrar.Proofs.RoundTrip.Metadata
import Registrar.Proofs.RoundTrip.Resources
/-!
# Objects that are written and read

An object can come in many shapes: with members that nobody knows, without the ones that may be
left out, with null in their place, or as a sequence of its fields. Whatever the shape, the object
that was read from it is written in one that reads as the same object again.
-/

set_option autoImplicit false

namespace Registrar

open Json (Reads)

/-! ## What is read of a record -/

namespace Json

variable {δ α : Type} {outline : Outline} {read : String → Json → δ → Decoded δ}
  {invariant : δ → Prop}

theorem ensures_readMembersOf
    (kept : ∀ name value draft, invariant draft → Ensures invariant (read name value draft))
    (members : List (String × Json)) {seen : List String} {draft : δ} (holds : invariant draft) :
    Ensures invariant (readMembersOf outline read seen draft members) := by
  induction members generalizing seen draft with
  | nil => exact .ok holds
  | cons member rest ih =>
      obtain ⟨name, value⟩ := member
      unfold readMembersOf
      split
      · split
        · exact .error _
        · exact .bind fun next taken => ih (kept name value draft holds next taken)
      · exact ih holds

theorem ensures_readItemsOf {total : Nat}
    (kept : ∀ name value draft, invariant draft → Ensures invariant (read name value draft))
    (names : List String) (items : List Json) {index : Nat} {draft : δ} (holds : invariant draft) :
    Ensures invariant (readItemsOf outline read total index names draft items) := by
  induction names generalizing items index draft with
  | nil =>
      cases items with
      | nil => exact .ok holds
      | cons => exact .error _
  | cons name names ih =>
      cases items with
      | nil =>
          unfold readItemsOf
          split
          · exact ih [] holds
          · exact .error _
      | cons item items =>
          exact .bind fun next taken => ih items (kept name item draft holds next taken)

/-- Every field that is read keeps what holds of the draft, in whichever shape the record comes. -/
theorem ensures_toRecord (invariant : δ → Prop) {blank : δ} {finish : δ → Decoded α}
    {property : α → Prop} (first : invariant blank)
    (kept : ∀ name value draft, invariant draft → Ensures invariant (read name value draft))
    (finished : ∀ draft, invariant draft → Ensures property (finish draft)) (json : Json) :
    Ensures property (toRecord outline blank read finish json) := by
  cases json with
  | object members =>
      exact .bind fun draft taken =>
        finished draft (ensures_readMembersOf kept members first draft taken)
  | array items =>
      exact .bind fun draft taken =>
        finished draft (ensures_readItemsOf kept outline.fields items first draft taken)
  | _ => exact .error _

end Json

theorem ensures_required {α : Type} {property : α → Prop} {field : Option α} (name : String)
    (holds : ∀ value ∈ field, property value) : Ensures property (required name field) := by
  cases field with
  | none => exact .error _
  | some value => exact .ok (holds value rfl)

/-! ## Management states -/

namespace ManagementState

/-- The name of a state is the one that it was given, except that no name is the ordinary state. -/
theorem name_ofName (text : String) :
    (ofName text).name = if text = "" then "Managed" else text := by
  unfold ofName
  grind [name]

theorem ofName_name_ofName (text : String) : ofName (ofName text).name = ofName text := by
  rw [name_ofName]
  split
  · next empty =>
      subst empty
      rfl
  · rfl

theorem ofName_eq_unknown {text : String}
    (other : text ∉ ["", "Managed", "Unmanaged", "Removed"]) : ofName text = .unknown text := by
  unfold ofName
  grind

end ManagementState

namespace OperatorSpec

/-- An instruction that was read: its state is the one of its name. -/
def Regular (spec : OperatorSpec) : Prop :=
  .ofName spec.managementState.name = spec.managementState

theorem ofJson_object (name : String) :
    ofJson (.object [("managementState", .string name)]) = .ok ⟨.ofName name⟩ :=
  rfl

theorem ofJson_toJson {spec : OperatorSpec} (regular : Regular spec) :
    ofJson spec.toJson = .ok spec := by
  have read := ofJson_object spec.managementState.name
  rw [show ManagementState.ofName _ = _ from regular] at read
  exact read

theorem ensures_ofJson (json : Json) : Ensures Regular (ofJson json) := by
  refine Json.ensures_toRecord (fun draft => ∀ state ∈ draft,
    ManagementState.ofName state.name = state) (by simp) ?_ ?_ json
  · intro name value draft holds
    unfold readField
    split
    · exact .map fun text _ => by simp [ManagementState.ofName_name_ofName]
    · exact .ok holds
  · intro draft holds
    cases draft with
    | none => exact .ok rfl
    | some state => exact .ok (holds state rfl)

end OperatorSpec

/-! ## Operator resources -/

namespace Operator

/-- An operator resource that was read. -/
structure Regular (operator : Operator) : Prop where
  metadata : operator.metadata.Regular
  spec : operator.spec.Regular

theorem ensures_ofJson (json : Json) : Ensures Regular (ofJson json) := by
  refine Json.ensures_toRecord
    (fun draft : Draft => (∀ metadata ∈ draft.metadata, metadata.Regular) ∧
      ∀ spec ∈ draft.spec, spec.Regular) (by simp) ?_ ?_ json
  · intro name value draft holds
    obtain ⟨metadata, spec⟩ := holds
    unfold readField
    split
    · exact .bind fun found read => .ok ⟨by simpa using Metadata.ensures_ofJson _ _ read, spec⟩
    · exact .bind fun found read =>
        .ok ⟨metadata, by simpa using OperatorSpec.ensures_ofJson _ _ read⟩
    · exact .bind fun _ _ => .ok ⟨metadata, spec⟩
    · exact .ok ⟨metadata, spec⟩
  · intro draft holds
    obtain ⟨metadata, spec⟩ := holds
    exact .bind fun found given => .bind fun instruction stated =>
      .ok ⟨ensures_required _ metadata _ given, ensures_required _ spec _ stated⟩

theorem reads_members {operator : Operator}
    (metadata : Metadata.ofJson operator.metadata.toJson = .ok operator.metadata)
    (spec : operator.spec.Regular) :
    Reads readField (["metadata", "spec"] ++ ["status"]) {}
      ([("metadata", operator.metadata.toJson), ("spec", operator.spec.toJson)] ++
        Json.member? "status" (operator.status.map OperatorStatus.toJson))
      (⟨some operator.metadata, some operator.spec, operator.status⟩ : Draft) := by
  refine .append (.cons (taken _ metadata)
    (.cons (taken _ (OperatorSpec.ofJson_toJson spec)) (.nil _))) ?_
  exact .member? operator.status (fun (draft : Draft) status => { draft with status := status })
    (fun status _ => taken _ (Json.restores_of_read Json.noConfusion status.ofJson_toJson)) rfl

theorem ofJson_toJson {operator : Operator} (regular : Regular operator)
    (whole : ∀ instant ∈ operator.metadata.instants, instant.IsWhole) :
    ofJson operator.toJson = .ok operator := by
  have metadata := Metadata.ofJson_toJson regular.metadata whole
  exact Json.toRecord_append_of_reads [_, _] (by simp [outline])
    (reads_members metadata regular.spec) (by decide) rfl

end Operator

/-! ## Registrations -/

namespace Registration

theorem ensures_ofJson (json : Json) :
    Ensures (fun registration => registration.metadata.Regular) (ofJson json) := by
  refine Json.ensures_toRecord
    (fun draft : Draft => ∀ metadata ∈ draft.metadata, metadata.Regular)
    (by simp) ?_ ?_ json
  · intro name value draft metadata
    unfold readField
    split
    · exact .bind fun found read => .ok (by simpa using Metadata.ensures_ofJson _ _ read)
    · exact .bind fun _ _ => .ok metadata
    · exact .bind fun _ _ => .ok metadata
    · exact .ok metadata
  · intro draft metadata
    exact .bind fun found given => .bind fun _ _ => .ok (ensures_required _ metadata _ given)

theorem reads_members {registration : Registration}
    (metadata : Metadata.ofJson registration.metadata.toJson = .ok registration.metadata) :
    Reads readField (["metadata", "spec"] ++ ["status"]) {}
      ([("metadata", registration.metadata.toJson), ("spec", registration.spec.toJson)] ++
        Json.member? "status" (registration.status.map RegistrationStatus.toJson))
      (⟨some registration.metadata, some registration.spec, registration.status⟩ : Draft) := by
  refine .append (.cons (taken _ metadata)
    (.cons (taken _ registration.spec.read_toJson) (.nil _))) ?_
  exact .member? registration.status (fun (draft : Draft) status => { draft with status := status })
    (fun status _ => taken _ (Json.restores_of_read Json.noConfusion status.ofJson_toJson)) rfl

theorem ofJson_toJson {registration : Registration} (regular : registration.metadata.Regular)
    (whole : ∀ instant ∈ registration.metadata.instants, instant.IsWhole) :
    ofJson registration.toJson = .ok registration := by
  have metadata := Metadata.ofJson_toJson regular whole
  exact Json.toRecord_append_of_reads [_, _] (by simp [outline]) (reads_members metadata)
    (by decide) rfl

end Registration

/-! ## All codecs -/

/-- What is written is read back, and what was read is written in a way that it is read back. Times
are written to the second. -/
theorem codecs_restore :
    (∀ spec : RegistrationSpec, (RegistrationSpec.read spec.toJson : Decoded _) = .ok spec) ∧
    (∀ status : RegistrationStatus, RegistrationStatus.ofJson status.toJson = .ok status) ∧
    (∀ status : OperatorStatus, OperatorStatus.ofJson status.toJson = .ok status) ∧
    (∀ (json : Json) (registration : Registration),
      Registration.ofJson json = .ok registration →
      (∀ instant ∈ registration.metadata.instants, instant.IsWhole) →
        Registration.ofJson registration.toJson = .ok registration) ∧
    (∀ (json : Json) (operator : Operator),
      Operator.ofJson json = .ok operator →
      (∀ instant ∈ operator.metadata.instants, instant.IsWhole) →
        Operator.ofJson operator.toJson = .ok operator) ∧
    ∀ text : String,
      OperatorSpec.ofJson (.object [("managementState", .string text)]) = .ok ⟨.ofName text⟩ ∧
      (OperatorSpec.mk (.ofName text)).toJson =
        .object [("managementState", .string (if text = "" then "Managed" else text))] ∧
      (text = "" → ManagementState.ofName text = .managed) ∧
      (text ∉ ["", "Managed", "Unmanaged", "Removed"] →
        ManagementState.ofName text = .unknown text) := by
  refine ⟨RegistrationSpec.read_toJson, RegistrationStatus.ofJson_toJson,
    OperatorStatus.ofJson_toJson, ?registrations, ?operators, fun text => ?states⟩
  case registrations =>
    intro json registration read whole
    exact Registration.ofJson_toJson (Registration.ensures_ofJson json registration read) whole
  case operators =>
    intro json operator read whole
    exact Operator.ofJson_toJson (Operator.ensures_ofJson json operator read) whole
  case states =>
    refine ⟨OperatorSpec.ofJson_object text, ?_, ?_, ManagementState.ofName_eq_unknown⟩
    · unfold OperatorSpec.toJson
      rw [ManagementState.name_ofName]
    · intro empty
      rw [empty]
      rfl

/-- An instruction as a sequence, the status of a condition as a map, a time of another zone, and
members that mean nothing. -/
def unusualJson : Json :=
  .object
    [("kind", .string "Sample"),
      ("spec", .array [.string "Paused"]),
      ("metadata", .object
        [("name", .string "cluster"), ("labels", .object [("b", .string "2"), ("a", .string "1")]),
          ("creationTimestamp", .string "2026-01-02 03:04:05+01:30"), ("uid", .null)]),
      ("status", .object
        [("conditions", .array [.object
          [("type", .string "Sampled"), ("status", .object [("True", .null)])]])])]

def unusualOperator : Operator where
  metadata :=
    { name := some "cluster", labels := some [("a", "1"), ("b", "2")],
      creationTimestamp := some ⟨1767317645, 0⟩ }
  spec := ⟨.unknown "Paused"⟩
  status := some ⟨[⟨"Sampled", .true, "", "", ""⟩], none⟩

theorem codecs_restore_sample :
    Operator.ofJson unusualJson = .ok unusualOperator ∧
      Operator.ofJson unusualOperator.toJson = .ok unusualOperator := by
  have read : Operator.ofJson unusualJson = .ok unusualOperator := by decide +kernel
  refine ⟨read, codecs_restore.2.2.2.2.1 _ _ read fun instant member => ?_⟩
  obtain rfl := List.mem_singleton.mp member
  rfl

end Registrar
