import Registrar.Proofs.RoundTrip.Fields
import Registrar.Proofs.RoundTrip.Instants
import Registrar.Resource.Metadata
/-!
# Metadata that is written and read

Metadata that was read has its dictionaries in order, its instants are ones that can be read, and no
null in place of absent fields. All of this comes back from what is written of it, as long as its
instants are of whole seconds, because fractions are not written.
-/

set_option autoImplicit false

namespace Registrar

open Json (Reads Restores)

/-! ## Dictionaries -/

namespace Dictionary

def Ordered (dictionary : Dictionary) : Prop :=
  dictionary.Pairwise fun entry later => entry.1 < later.1

theorem mem_insert {dictionary : Dictionary} {key value : String} {entry : String × String}
    (member : entry ∈ dictionary.insert key value) : entry = (key, value) ∨ entry ∈ dictionary := by
  fun_induction Dictionary.insert key value dictionary <;> grind

theorem Ordered.insert {dictionary : Dictionary} (ordered : Ordered dictionary)
    (key value : String) : Ordered (dictionary.insert key value) := by
  induction dictionary with
  | nil => exact List.pairwise_singleton _ _
  | cons entry rest ih =>
      obtain ⟨other, held⟩ := entry
      obtain ⟨first, others⟩ := List.pairwise_cons.mp ordered
      unfold Dictionary.insert
      split
      · next same => exact List.pairwise_cons.mpr ⟨same ▸ first, others⟩
      · next different =>
          split
          · next before =>
              refine List.pairwise_cons.mpr ⟨fun entry member => ?_, ordered⟩
              rcases List.mem_cons.mp member with rfl | later
              · exact before
              · exact String.lt_trans before (first entry later)
          · next late =>
              have after : other < key :=
                Std.lt_of_le_of_ne (String.not_lt.mp late) (Ne.symm different)
              refine List.pairwise_cons.mpr ⟨fun entry member => ?_, ih others⟩
              rcases mem_insert member with rfl | held
              · exact after
              · exact first entry held

theorem ordered_ofList (entries : List (String × String)) : Ordered (ofList entries) := by
  unfold ofList
  exact List.foldlRecOn entries _ .nil fun _ ordered entry _ => ordered.insert entry.1 entry.2

theorem insert_of_after {dictionary : Dictionary} {key : String}
    (after : ∀ entry ∈ dictionary, entry.1 < key) (value : String) :
    dictionary.insert key value = dictionary ++ [(key, value)] := by
  induction dictionary with
  | nil => rfl
  | cons entry rest ih =>
      obtain ⟨other, held⟩ := entry
      obtain ⟨here, later⟩ := List.forall_mem_cons.mp after
      unfold Dictionary.insert
      have different : key ≠ other := fun same => String.lt_irrefl _ (same ▸ here)
      rw [if_neg different, if_neg (String.lt_asymm here), ih later]
      rfl

theorem foldl_insert_of_ordered (first : Dictionary) {rest : Dictionary}
    (ordered : Ordered (first ++ rest)) :
    rest.foldl (fun dictionary (key, value) => dictionary.insert key value) first =
      first ++ rest := by
  induction rest generalizing first with
  | nil => exact (List.append_nil first).symm
  | cons entry rest ih =>
      have after : ∀ earlier ∈ first, earlier.1 < entry.1 := fun earlier member =>
        (List.pairwise_append.mp ordered).2.2 earlier member entry List.mem_cons_self
      rw [List.append_cons] at ordered ⊢
      rw [List.foldl_cons]
      dsimp only
      rw [insert_of_after after]
      exact ih _ ordered

theorem ofList_eq_self {dictionary : Dictionary} (ordered : Ordered dictionary) :
    ofList dictionary = dictionary :=
  foldl_insert_of_ordered [] ordered

end Dictionary

theorem Json.restores_dictionary {dictionary : Dictionary} (ordered : dictionary.Ordered) :
    Restores toDictionary ofDictionary dictionary := by
  have texts : toTexts (ofDictionary dictionary) = .ok dictionary := by
    unfold ofDictionary toTexts
    dsimp only
    clear ordered
    induction dictionary with
    | nil => rfl
    | cons entry rest ih =>
        rw [List.map_cons, List.mapM_cons, ih]
        rfl
  refine restores_of_read Json.noConfusion ?_
  unfold toDictionary
  rw [texts]
  exact congrArg Except.ok (Dictionary.ofList_eq_self ordered)

theorem Json.restores_instant {instant : Instant} (regular : instant.Regular)
    (whole : instant.IsWhole) : Restores toInstant ofInstant instant := by
  refine restores_of_read Json.noConfusion ?_
  unfold ofInstant toInstant
  dsimp only
  rw [Instant.parse_write regular whole]

theorem Json.restores_list {α : Type} {read : Json → Decoded α} {write : α → Json}
    {values : List α} (written : ∀ value ∈ values, read (write value) = .ok value) :
    Restores (toList read) (fun values => .array (values.map write)) values :=
  restores_of_read Json.noConfusion (toList_array_of_mem written)

namespace Json

variable {α : Type} {property : α → Prop} {read : Json → Decoded α}

theorem ensures_toOption (ensures : ∀ json, Ensures property (read json)) (json : Json) :
    Ensures (fun found => ∀ value ∈ found, property value) (toOption read json) := by
  cases json with
  | null => exact .ok nofun
  | _ => exact .map fun value read => by simpa using ensures _ value read

theorem ensures_toList (ensures : ∀ json, Ensures property (read json)) (json : Json) :
    Ensures (fun values => ∀ value ∈ values, property value) (toList read json) := by
  cases json with
  | array items => exact .mapM fun item _ => ensures item
  | _ => exact .error _

theorem ensures_toDictionary (json : Json) : Ensures Dictionary.Ordered json.toDictionary :=
  .map fun entries _ => Dictionary.ordered_ofList entries

theorem ensures_toInstant (json : Json) : Ensures Instant.Regular json.toInstant := by
  cases json with
  | string text =>
      unfold toInstant
      dsimp only
      split
      · next instant parsed => exact .ok (Instant.ensures_parse text instant parsed)
      · exact .error _
  | _ => exact .error _

end Json

/-! ## Parts of the metadata -/

namespace OwnerReference

theorem ofJson_toJson (owner : OwnerReference) : ofJson owner.toJson = .ok owner := by
  obtain ⟨apiVersion, blockOwnerDeletion, controller, kind, name, uid⟩ := owner
  cases blockOwnerDeletion <;> cases controller <;> rfl

end OwnerReference

namespace ManagedFields

/-- What is read of managed fields: null counts as absent. -/
structure Regular (fields : ManagedFields) : Prop where
  fieldsV1 : fields.fieldsV1 ≠ some .null
  time : ∀ instant ∈ fields.time, instant.Regular

theorem Regular.readField {fields : ManagedFields} (regular : Regular fields) (name : String)
    (value : Json) : Ensures Regular (readField name value fields) := by
  unfold ManagedFields.readField
  split
  case h_3 =>
    refine .bind fun taken read => .ok ⟨?_, regular.time⟩
    cases value with
    | null =>
        cases read
        nofun
    | _ =>
        cases read
        nofun
  case h_7 =>
    exact .bind fun instant read =>
      .ok ⟨regular.fieldsV1, Json.ensures_toOption Json.ensures_toInstant _ _ read⟩
  case h_8 => exact .ok regular
  all_goals exact .bind fun _ _ => .ok ⟨regular.fieldsV1, regular.time⟩

theorem ensures_ofJson (json : Json) : Ensures Regular (ofJson json) := by
  cases json with
  | object members =>
      exact .foldlM ⟨nofun, nofun⟩
        fun member _ fields regular => regular.readField member.1 member.2
  | _ => exact .error _

theorem ofJson_toJson {fields : ManagedFields} (regular : Regular fields)
    (whole : ∀ instant ∈ fields.time, instant.IsWhole) : ofJson fields.toJson = .ok fields := by
  -- null is read as no value at all
  have present : ∀ value, fields.fieldsV1 = some value →
      Json.toOption (fun json => .ok json) value = .ok (some value) := by
    intro value held
    cases value with
    | null => exact absurd held regular.fieldsV1
    | _ => rfl
  have restores : ∀ instant, fields.time = some instant →
      Restores Json.toInstant Json.ofInstant instant :=
    fun instant held => Json.restores_instant (regular.time instant held) (whole instant held)
  have mapped : fields.fieldsV1 = fields.fieldsV1.map id := by rw [Option.map_id, id]
  unfold ofJson toJson Json.toLooseRecord
  dsimp only
  rw [mapped]
  refine (congrArg (List.foldlM _ _) (List.append_nil _).symm).trans ?_
  simp only [List.append_assoc]
  rw [Json.foldlM_member? readField "apiVersion" .string fields.apiVersion
    (fun (draft : ManagedFields) value => { draft with apiVersion := value })
    (fun _ _ => rfl) rfl]
  rw [Json.foldlM_member? readField "fieldsType" .string fields.fieldsType
    (fun (draft : ManagedFields) value => { draft with fieldsType := value })
    (fun _ _ => rfl) rfl]
  rw [Json.foldlM_member? readField "fieldsV1" id fields.fieldsV1
    (fun (draft : ManagedFields) value => { draft with fieldsV1 := value })
    (fun value held => taken _ (present value held)) rfl]
  rw [Json.foldlM_member? readField "manager" .string fields.manager
    (fun (draft : ManagedFields) value => { draft with manager := value })
    (fun _ _ => rfl) rfl]
  rw [Json.foldlM_member? readField "operation" .string fields.operation
    (fun (draft : ManagedFields) value => { draft with operation := value })
    (fun _ _ => rfl) rfl]
  rw [Json.foldlM_member? readField "subresource" .string fields.subresource
    (fun (draft : ManagedFields) value => { draft with subresource := value })
    (fun _ _ => rfl) rfl]
  rw [Json.foldlM_member? readField "time" .ofInstant fields.time
    (fun (draft : ManagedFields) value => { draft with time := value })
    (fun instant held => taken _ (restores instant held)) rfl]
  rfl

end ManagedFields

/-! ## The metadata -/

namespace Metadata

/-- The times that the metadata holds. -/
def instants (metadata : Metadata) : List Instant :=
  metadata.creationTimestamp.toList ++ metadata.deletionTimestamp.toList ++
    (metadata.managedFields.getD []).flatMap fun fields => fields.time.toList

/-- What is read of metadata. -/
structure Regular (metadata : Metadata) : Prop where
  annotations : ∀ dictionary ∈ metadata.annotations, dictionary.Ordered
  labels : ∀ dictionary ∈ metadata.labels, dictionary.Ordered
  creationTimestamp : ∀ instant ∈ metadata.creationTimestamp, instant.Regular
  deletionTimestamp : ∀ instant ∈ metadata.deletionTimestamp, instant.Regular
  managedFields : ∀ entries ∈ metadata.managedFields, ∀ fields ∈ entries, fields.Regular

theorem Regular.readField {metadata : Metadata} (regular : Regular metadata) (name : String)
    (value : Json) : Ensures Regular (readField name value metadata) := by
  obtain ⟨annotations, labels, created, deleted, managed⟩ := regular
  unfold Metadata.readField
  split
  case h_1 =>
    exact .bind fun found read => .ok ⟨Json.ensures_toOption Json.ensures_toDictionary _ _ read,
      labels, created, deleted, managed⟩
  case h_2 =>
    exact .bind fun found read => .ok ⟨annotations, labels,
      Json.ensures_toOption Json.ensures_toInstant _ _ read, deleted, managed⟩
  case h_4 =>
    exact .bind fun found read => .ok ⟨annotations, labels, created,
      Json.ensures_toOption Json.ensures_toInstant _ _ read, managed⟩
  case h_8 =>
    exact .bind fun found read => .ok ⟨annotations,
      Json.ensures_toOption Json.ensures_toDictionary _ _ read, created, deleted, managed⟩
  case h_9 =>
    exact .bind fun found read => .ok ⟨annotations, labels, created, deleted,
      Json.ensures_toOption (Json.ensures_toList ManagedFields.ensures_ofJson) _ _ read⟩
  case h_16 => exact .ok ⟨annotations, labels, created, deleted, managed⟩
  all_goals exact .bind fun _ _ => .ok ⟨annotations, labels, created, deleted, managed⟩

/-- Whatever is read is metadata that comes back. -/
theorem ensures_ofJson (json : Json) : Ensures Regular (ofJson json) := by
  cases json with
  | object members =>
      exact .foldlM ⟨nofun, nofun, nofun, nofun, nofun⟩
        fun member _ metadata regular => regular.readField member.1 member.2
  | _ => exact .error _

theorem ofJson_toJson {metadata : Metadata} (regular : Regular metadata)
    (whole : ∀ instant ∈ metadata.instants, instant.IsWhole) :
    ofJson metadata.toJson = .ok metadata := by
  have created : ∀ instant, metadata.creationTimestamp = some instant →
      Restores Json.toInstant Json.ofInstant instant := fun instant held =>
    Json.restores_instant (regular.creationTimestamp instant held)
      (whole instant (by simp [instants, held]))
  have deleted : ∀ instant, metadata.deletionTimestamp = some instant →
      Restores Json.toInstant Json.ofInstant instant := fun instant held =>
    Json.restores_instant (regular.deletionTimestamp instant held)
      (whole instant (by simp [instants, held]))
  have managed : ∀ entries, metadata.managedFields = some entries →
      Restores (Json.toList ManagedFields.ofJson)
        (fun entries => .array (entries.map ManagedFields.toJson)) entries := by
    intro entries held
    refine Json.restores_list fun fields member => ?_
    refine ManagedFields.ofJson_toJson (regular.managedFields entries held fields member) ?_
    intro instant timed
    refine whole instant (List.mem_append_right _ (List.mem_flatMap.mpr ⟨fields, ?_, ?_⟩))
    · rw [held]
      exact member
    · exact Option.mem_toList.mpr timed
  unfold ofJson toJson Json.toLooseRecord
  dsimp only
  refine (congrArg (List.foldlM _ _) (List.append_nil _).symm).trans ?_
  simp only [List.append_assoc]
  rw [Json.foldlM_member? readField "annotations" .ofDictionary metadata.annotations
    (fun (draft : Metadata) value => { draft with annotations := value })
    (fun value held => taken _ (Json.restores_dictionary (regular.annotations value held))) rfl]
  rw [Json.foldlM_member? readField "creationTimestamp" .ofInstant metadata.creationTimestamp
    (fun (draft : Metadata) value => { draft with creationTimestamp := value })
    (fun value held => taken _ (created value held)) rfl]
  rw [Json.foldlM_member? readField "deletionGracePeriodSeconds" .ofInt64
    metadata.deletionGracePeriodSeconds
    (fun (draft : Metadata) value => { draft with deletionGracePeriodSeconds := value })
    (fun value _ => taken _ (Json.restores_int64 value)) rfl]
  rw [Json.foldlM_member? readField "deletionTimestamp" .ofInstant metadata.deletionTimestamp
    (fun (draft : Metadata) value => { draft with deletionTimestamp := value })
    (fun value held => taken _ (deleted value held)) rfl]
  rw [Json.foldlM_member? readField "finalizers" .strings metadata.finalizers
    (fun (draft : Metadata) value => { draft with finalizers := value })
    (fun value _ => taken _ (Json.restores_list fun text _ => rfl)) rfl]
  rw [Json.foldlM_member? readField "generateName" .string metadata.generateName
    (fun (draft : Metadata) value => { draft with generateName := value })
    (fun _ _ => rfl) rfl]
  rw [Json.foldlM_member? readField "generation" .ofInt64 metadata.generation
    (fun (draft : Metadata) value => { draft with generation := value })
    (fun value _ => taken _ (Json.restores_int64 value)) rfl]
  rw [Json.foldlM_member? readField "labels" .ofDictionary metadata.labels
    (fun (draft : Metadata) value => { draft with labels := value })
    (fun value held => taken _ (Json.restores_dictionary (regular.labels value held))) rfl]
  rw [Json.foldlM_member? readField "managedFields"
    (fun entries : List ManagedFields => .array (entries.map ManagedFields.toJson))
    metadata.managedFields
    (fun (draft : Metadata) value => { draft with managedFields := value })
    (fun value held => taken _ (managed value held)) rfl]
  rw [Json.foldlM_member? readField "name" .string metadata.name
    (fun (draft : Metadata) value => { draft with name := value })
    (fun _ _ => rfl) rfl]
  rw [Json.foldlM_member? readField "namespace" .string metadata.namespaceName
    (fun (draft : Metadata) value => { draft with namespaceName := value })
    (fun _ _ => rfl) rfl]
  rw [Json.foldlM_member? readField "ownerReferences"
    (fun owners : List OwnerReference => .array (owners.map OwnerReference.toJson))
    metadata.ownerReferences
    (fun (draft : Metadata) value => { draft with ownerReferences := value })
    (fun value _ => taken _ (Json.restores_list fun owner _ => owner.ofJson_toJson)) rfl]
  rw [Json.foldlM_member? readField "resourceVersion" .string metadata.resourceVersion
    (fun (draft : Metadata) value => { draft with resourceVersion := value })
    (fun _ _ => rfl) rfl]
  rw [Json.foldlM_member? readField "selfLink" .string metadata.selfLink
    (fun (draft : Metadata) value => { draft with selfLink := value })
    (fun _ _ => rfl) rfl]
  rw [Json.foldlM_member? readField "uid" .string metadata.uid
    (fun (draft : Metadata) value => { draft with uid := value })
    (fun _ _ => rfl) rfl]
  rfl

end Metadata

end Registrar
