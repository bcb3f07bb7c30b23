import Registrar.Proofs.Records
/-!
# Fields that are written and read

A record is written as the list of its members, most of them only where there is something to
write. Each member that was written is read back into the field it came from, so the whole list is
read back into the record: the steps of the writer are gone through once, and one after the other.
-/

set_option autoImplicit false

namespace Registrar

/-- What was taken of a value is put into the draft. -/
theorem taken {α β : Type} {value : Decoded α} {result : α} (put : α → β)
    (read : value = .ok result) : (do return put (← value)) = (.ok (put result) : Decoded β) := by
  rw [read]
  rfl

namespace Json

variable {δ α : Type} {outline : Outline} {read : String → Json → δ → Decoded δ}

/-! ## Values -/

/-- A value is written so that it is read as the same value, and is not taken for an absent one. -/
def Restores (read : Json → Decoded α) (write : α → Json) (value : α) : Prop :=
  toOption read (write value) = .ok (some value)

theorem restores_of_read {read : Json → Decoded α} {write : α → Json} {value : α}
    (written : write value ≠ .null) (reads : read (write value) = .ok value) :
    Restores read write value := by
  unfold Restores
  cases text : write value with
  | null => exact absurd text written
  | bool | integer | real | string | array | object =>
      rw [text] at reads
      exact congrArg (Except.map some) reads

theorem toInt32_ofInt32 (value : Int32) : (ofInt32 value).toInt32 = .ok value := by
  unfold ofInt32 toInt32 toBounded
  dsimp only
  rw [if_pos ⟨value.minValue_le_toInt, value.toInt_le⟩]
  exact congrArg Except.ok value.ofInt_toInt

theorem restores_int32 (value : Int32) : Restores toInt32 ofInt32 value :=
  restores_of_read (by simp [ofInt32]) (toInt32_ofInt32 value)

theorem restores_int64 (value : Int64) : Restores toInt64 ofInt64 value :=
  restores_of_read (by simp [ofInt64]) (toInt64_ofInt64 value)

/-! ## Members -/

/-- Members in the order of these names, which take one draft to another when they are read. -/
structure Reads (read : String → Json → δ → Decoded δ) (names : List String) (draft : δ)
    (members : List (String × Json)) (next : δ) : Prop where
  ordered : (members.map Prod.fst).Sublist names
  folded : members.foldlM (fun draft member => read member.1 member.2 draft) draft = .ok next

namespace Reads

variable {draft next last : δ} {members more : List (String × Json)} {name : String} {value : Json}
  {names others : List String}

theorem nil (draft : δ) : Reads read [] draft [] draft :=
  ⟨.slnil, rfl⟩

theorem cons (first : read name value draft = .ok next) (rest : Reads read names next members last) :
    Reads read (name :: names) draft ((name, value) :: members) last := by
  refine ⟨rest.ordered.cons_cons name, ?_⟩
  rw [List.foldlM_cons]
  dsimp only
  rw [first]
  exact rest.folded

theorem append (first : Reads read names draft members next)
    (rest : Reads read others next more last) :
    Reads read (names ++ others) draft (members ++ more) last := by
  refine ⟨?_, ?_⟩
  · rw [List.map_append]
    exact first.ordered.append rest.ordered
  · rw [List.foldlM_append, first.folded]
    exact rest.folded

/-- A field that may be absent. -/
theorem member? (field : Option α) {write : α → Json} (put : δ → Option α → δ)
    (present : ∀ value, field = some value →
      read name (write value) draft = .ok (put draft (some value)))
    (absent : put draft none = draft) :
    Reads read [name] draft (Json.member? name (field.map write)) (put draft field) := by
  cases field with
  | none =>
      rw [absent]
      exact ⟨List.nil_sublist _, rfl⟩
  | some value => exact cons (present value rfl) (nil _)

/-- A flag that is only written where it is set. -/
theorem flag (flag : Bool) (put : δ → Option Bool → δ)
    (present : read name (.bool true) draft = .ok (put draft (some true)))
    (absent : put draft none = draft) :
    Reads read [name] draft (if flag then [(name, .bool true)] else [])
      (put draft (if flag then some true else none)) := by
  cases flag with
  | false =>
      refine ⟨List.nil_sublist _, ?_⟩
      rw [if_neg Bool.false_ne_true, if_neg Bool.false_ne_true, absent]
      rfl
  | true => exact cons present (nil _)

end Reads

/-- An optional member leads to the draft in which its field is put, before all others are read. -/
theorem foldlM_member? (read : String → Json → δ → Decoded δ) {draft : δ} (name : String)
    (write : α → Json) (field : Option α) (put : δ → Option α → δ)
    (present : ∀ value, field = some value →
      read name (write value) draft = .ok (put draft (some value)))
    (absent : put draft none = draft) (rest : List (String × Json)) :
    (member? name (field.map write) ++ rest).foldlM
        (fun draft member => read member.1 member.2 draft) draft =
      rest.foldlM (fun draft member => read member.1 member.2 draft) (put draft field) := by
  rw [List.foldlM_append, (Reads.member? field put present absent).folded]
  rfl

theorem readMembersOf_of_distinct {draft next : δ} {members : List (String × Json)}
    {seen : List String} (known : ∀ name ∈ members.map Prod.fst, name ∈ outline.fields)
    (distinct : (seen ++ members.map Prod.fst).Nodup)
    (folded : members.foldlM (fun draft member => read member.1 member.2 draft) draft = .ok next) :
    readMembersOf outline read seen draft members = .ok next := by
  induction members generalizing seen draft with
  | nil => exact folded
  | cons member rest ih =>
      obtain ⟨name, value⟩ := member
      obtain ⟨here, later⟩ := List.forall_mem_cons.mp known
      rw [List.map_cons, List.perm_middle.nodup_iff] at distinct
      have fresh : name ∉ seen := fun member =>
        (List.nodup_cons.mp distinct).1 (List.mem_append_left _ member)
      rw [List.foldlM_cons] at folded
      dsimp only at folded
      cases first : read name value draft with
      | error cause =>
          rw [first] at folded
          cases folded
      | ok middle =>
          rw [first] at folded
          exact (readMembersOf_cons_eq_ok_iff _ _ _ _ _ _).mpr
            (.inr ⟨here, fresh, middle, first, ih later distinct folded⟩)

/-- A record is read from members in the order of its fields, after others that it does not know. -/
theorem toRecord_append_of_reads {blank next : δ} {finish : δ → Decoded α} {result : α}
    (unknown : List (String × Json)) {members : List (String × Json)}
    (strange : ∀ member ∈ unknown, member.1 ∉ outline.fields)
    (reads : Reads read outline.fields blank members next) (distinct : outline.fields.Nodup)
    (finished : finish next = .ok result) :
    toRecord outline blank read finish (.object (unknown ++ members)) = .ok result := by
  unfold toRecord
  dsimp only
  rw [readMembersOf_append_of_unknown strange, readMembersOf_of_distinct
    (fun name member => reads.ordered.subset member) (reads.ordered.nodup distinct) reads.folded]
  exact finished

theorem toRecord_of_reads {blank next : δ} {finish : δ → Decoded α} {result : α}
    {members : List (String × Json)} (reads : Reads read outline.fields blank members next)
    (distinct : outline.fields.Nodup) (finished : finish next = .ok result) :
    toRecord outline blank read finish (.object members) = .ok result :=
  toRecord_append_of_reads [] (List.forall_mem_nil _) reads distinct finished

end Json

end Registrar
