import Registrar.Resource.Operator
/-!
# Records that are written and read

A record is read from the members of an object. Members that are not known to it make no difference,
and a member that takes the place of another one changes just its own field. What is written of a
condition is read as that condition.
-/

set_option autoImplicit false

namespace Registrar

namespace Json

variable {δ : Type} {outline : Outline} {read : String → Json → δ → Decoded δ}

/-! ## Members -/

/-- The members of other names. -/
def without (members : List (String × Json)) (name : String) : List (String × Json) :=
  members.filter fun member => member.1 ≠ name

theorem readMembersOf_append_of_unknown {unknown : List (String × Json)}
    (strange : ∀ member ∈ unknown, member.1 ∉ outline.fields) (seen : List String) (draft : δ)
    (rest : List (String × Json)) :
    readMembersOf outline read seen draft (unknown ++ rest) =
      readMembersOf outline read seen draft rest := by
  induction unknown with
  | nil => rfl
  | cons member unknown ih =>
      obtain ⟨name, value⟩ := member
      obtain ⟨here, later⟩ := List.forall_mem_cons.mp strange
      rw [List.cons_append, readMembersOf, if_neg (by simpa using here), ih later]

/-- How the first member is read: passed over, or into the draft as the first of its name. -/
theorem readMembersOf_cons_eq_ok_iff (name : String) (value : Json) (rest : List (String × Json))
    (seen : List String) (draft final : δ) :
    readMembersOf outline read seen draft ((name, value) :: rest) = .ok final ↔
      (name ∉ outline.fields ∧ readMembersOf outline read seen draft rest = .ok final) ∨
      (name ∈ outline.fields ∧ name ∉ seen ∧ ∃ next, read name value draft = .ok next ∧
        readMembersOf outline read (name :: seen) next rest = .ok final) := by
  rw [readMembersOf]
  by_cases known : name ∈ outline.fields
  · by_cases repeated : name ∈ seen
    · simp [known, repeated]
    · cases read name value draft <;> simp [known, repeated, bind, Except.bind]
  · simp [known]

/-- A field is read apart from the others, if what it leaves can be erased without a trace. -/
structure ReadsApart (read : String → Json → δ → Decoded δ) (field : String) (erase : δ → δ) :
    Prop where
  others : ∀ {name value draft next}, name ≠ field → read name value draft = .ok next →
    read name value (erase draft) = .ok (erase next)
  erased : ∀ {value draft next}, read field value draft = .ok next → erase next = erase draft

/-- Of members that can be read, the one of a known field is replaced by another one. -/
theorem readMembersOf_replace {field : String} {erase : δ → δ} (apart : ReadsApart read field erase)
    (known : field ∈ outline.fields) {members : List (String × Json)} {seen before : List String}
    {draft final : δ} (readable : readMembersOf outline read seen draft members = .ok final)
    (fewer : before ⊆ seen) (fresh : field ∉ before) (value : Json) {replaced : δ}
    (reads : read field value (erase final) = .ok replaced) :
    readMembersOf outline read before (erase draft) (without members field ++ [(field, value)]) =
      .ok replaced := by
  induction members generalizing seen before draft with
  | nil =>
      cases readable
      exact (readMembersOf_cons_eq_ok_iff _ _ _ _ _ _).mpr (.inr ⟨known, fresh, _, reads, rfl⟩)
  | cons member rest ih =>
      obtain ⟨name, held⟩ := member
      unfold without at ih ⊢
      rcases (readMembersOf_cons_eq_ok_iff _ _ _ _ _ _).mp readable with
        ⟨unknown, later⟩ | ⟨listed, first, next, taken, later⟩
      · have different : name ≠ field := fun same => unknown (same ▸ known)
        rw [List.filter_cons_of_pos (by simpa using different)]
        exact (readMembersOf_cons_eq_ok_iff _ _ _ _ _ _).mpr (.inl ⟨unknown, ih later fewer fresh⟩)
      · by_cases same : name = field
        · subst same
          rw [List.filter_cons_of_neg (by simp), ← apart.erased taken]
          exact ih later (List.Subset.trans fewer (List.subset_cons_self _ _)) fresh
        · rw [List.filter_cons_of_pos (by simpa using same)]
          refine (readMembersOf_cons_eq_ok_iff _ _ _ _ _ _).mpr (.inr
            ⟨listed, fun member => first (fewer member), _, apart.others same taken, ?_⟩)
          exact ih later (List.cons_subset_cons _ fewer) (by simpa using ⟨Ne.symm same, fresh⟩)

/-! ## Values -/

theorem toList_array_of_mem {α : Type} {read : Json → Decoded α} {write : α → Json}
    {values : List α} (written : ∀ value ∈ values, read (write value) = .ok value) :
    toList read (.array (values.map write)) = .ok values := by
  unfold toList
  dsimp only
  induction values with
  | nil => rfl
  | cons value rest ih =>
      obtain ⟨here, later⟩ := List.forall_mem_cons.mp written
      rw [List.map_cons, List.mapM_cons, here, ih later]
      rfl

theorem toList_array_map {α : Type} {read : Json → Decoded α} {write : α → Json}
    (written : ∀ value, read (write value) = .ok value) (values : List α) :
    toList read (.array (values.map write)) = .ok values :=
  toList_array_of_mem fun value _ => written value

theorem toInt64_ofInt64 (value : Int64) : (ofInt64 value).toInt64 = .ok value := by
  unfold ofInt64 toInt64 toBounded
  dsimp only
  rw [if_pos ⟨value.minValue_le_toInt, value.toInt_le⟩]
  exact congrArg Except.ok value.ofInt_toInt

end Json

theorem Condition.ofJson_toJson (condition : Condition) :
    ofJson condition.toJson = .ok condition := by
  obtain ⟨type, status, lastTransitionTime, reason, message⟩ := condition
  cases status <;> rfl

/-! ## The status of the operator resource -/

theorem OperatorStatus.ofJson_members {unknown : List (String × Json)}
    (strange : ∀ member ∈ unknown, member.1 ∉ outline.fields) (status : OperatorStatus) :
    ofJson (.object (unknown ++ ("conditions", .array (status.conditions.map Condition.toJson)) ::
      Json.member? "observedGeneration" (status.observedGeneration.map .ofInt64))) =
        .ok status := by
  obtain ⟨conditions, generation⟩ := status
  have listed := Json.toList_array_map Condition.ofJson_toJson conditions
  unfold ofJson Json.toRecord
  dsimp only
  rw [Json.readMembersOf_append_of_unknown strange]
  cases generation with
  | none =>
      simp [Json.member?, Json.readMembersOf, outline, readField, listed, bind, Except.bind, pure,
        Except.pure]
  | some generation =>
      have numbered : Json.toOption Json.toInt64 (.ofInt64 generation) = .ok (some generation) :=
        congrArg (Except.map some) (Json.toInt64_ofInt64 generation)
      simp [Json.member?, Json.readMembersOf, outline, readField, listed, numbered, bind,
        Except.bind, pure, Except.pure]

theorem Operator.readsApart_status :
    Json.ReadsApart readField "status" fun draft => { draft with status := none } := by
  constructor
  · intro name value draft next different taken
    unfold readField at taken ⊢
    split at taken
    · cases read : Metadata.ofJson value with
      | error cause =>
          rw [read] at taken
          cases taken
      | ok metadata =>
          rw [read] at taken
          cases taken
          rfl
    · cases read : OperatorSpec.ofJson value with
      | error cause =>
          rw [read] at taken
          cases taken
      | ok spec =>
          rw [read] at taken
          cases taken
          rfl
    · exact absurd rfl different
    · cases taken
      rfl
  · intro value draft next taken
    unfold readField at taken
    cases read : Json.toOption OperatorStatus.ofJson value with
    | error cause =>
        simp only [read] at taken
        cases taken
    | ok status =>
        simp only [read] at taken
        cases taken
        rfl

theorem Operator.finish_of_finish {draft : Draft} {operator : Operator}
    (finished : finish draft = .ok operator) (status : OperatorStatus) :
    finish { draft with status := some status } = .ok { operator with status := some status } := by
  obtain ⟨metadata, spec, held⟩ := draft
  cases metadata with
  | none => cases finished
  | some metadata =>
      cases spec with
      | none => cases finished
      | some spec =>
          cases finished
          rfl

/-- The status of a resource is replaced by another one, and nothing else changes. -/
theorem Operator.ofJson_replace_status {members : List (String × Json)} {operator : Operator}
    (readable : ofJson (.object members) = .ok operator) {entries : List (String × Json)}
    {status : OperatorStatus} (reads : OperatorStatus.ofJson (.object entries) = .ok status) :
    ofJson (.object (Json.without members "status" ++ [("status", .object entries)])) =
      .ok { operator with status := some status } := by
  unfold ofJson Json.toRecord at readable ⊢
  dsimp only at readable ⊢
  cases drafted : Json.readMembersOf outline readField [] {} members with
  | error cause =>
      rw [drafted] at readable
      cases readable
  | ok draft =>
      rw [drafted] at readable
      have taken : Json.toOption OperatorStatus.ofJson (.object entries) = .ok (some status) :=
        congrArg (Except.map some) reads
      have renewed : readField "status" (.object entries) draft =
          .ok { draft with status := some status } := by
        simp only [readField, taken]
        rfl
      have replaced := Json.readMembersOf_replace readsApart_status (by decide) drafted
        (List.Subset.refl []) (by simp) (.object entries) renewed
      rw [replaced]
      exact finish_of_finish readable status

end Registrar
