import Registrar.Resource.Condition
/-!
# Merging conditions

Conditions are written into a list one after the other, each with its own reading of the clock. If
their types are distinct, none of them gets in the way of another: the first condition of each type
is written over in place, and what has no place yet goes to the end.
-/

set_option autoImplicit false

namespace Registrar.Condition

/-- The list after conditions were written into it, each with its reading of the clock. -/
def mergeAll (existing : List Condition) (written : List (Condition × String)) : List Condition :=
  written.foldl (fun merged write => setIn merged write.1 write.2) existing

/-- The list says what a condition says, with the first condition of its type. -/
def Says (existing : List Condition) (written : Condition) : Prop :=
  ∃ stored, find? existing written.type = some stored ∧ stored.status = written.status ∧
    stored.reason = written.reason ∧ stored.message = written.message

abbrev writtenTypes (written : List (Condition × String)) : List String :=
  written.map fun write => write.1.type

/-! ## Writing what is said already -/

theorem absorb_eq_self_iff (stored written : Condition) (now : String) :
    stored.absorb written now = stored ↔ stored.status = written.status ∧
      stored.reason = written.reason ∧ stored.message = written.message := by
  constructor
  · intro same
    have status := congrArg Condition.status same
    have reason := congrArg Condition.reason same
    have message := congrArg Condition.message same
    exact ⟨status.symm, reason.symm, message.symm⟩
  · intro said
    obtain ⟨status, reason, message⟩ := said
    simp [absorb, ← status, ← reason, ← message]

theorem setIn_eq_self_of_says {existing : List Condition} {written : Condition}
    (said : Says existing written) (now : String) : setIn existing written now = existing := by
  obtain ⟨stored, found, agree⟩ := said
  induction existing with
  | nil => cases found
  | cons head rest ih =>
      unfold find? at found ih
      by_cases same : head.type = written.type
      · obtain rfl : head = stored := by simpa [List.find?_cons, same] using found
        rw [setIn, if_pos same, (absorb_eq_self_iff head written now).mpr agree]
      · have further :
            rest.find? (fun condition => condition.type = written.type) = some stored := by
          simpa [List.find?_cons, same] using found
        rw [setIn, if_neg same, ih further]

/-- Writes of other types leave the first condition of a type as it is. -/
theorem find?_mergeAll_of_fresh (existing : List Condition) {written : List (Condition × String)}
    {type : String} (fresh : type ∉ writtenTypes written) :
    find? (mergeAll existing written) type = find? existing type := by
  induction written generalizing existing with
  | nil => rfl
  | cons write rest ih =>
      simp only [List.map_cons, List.mem_cons, not_or] at fresh
      have later := ih (setIn existing write.1 write.2) fresh.2
      rw [find?_setIn, if_neg fresh.1] at later
      exact later

/-- Nothing changes just if the list says all that is written. -/
theorem mergeAll_eq_self_iff (existing : List Condition) {written : List (Condition × String)}
    (distinct : (writtenTypes written).Nodup) :
    mergeAll existing written = existing ↔ ∀ write ∈ written, Says existing write.1 := by
  induction written with
  | nil => simp [mergeAll]
  | cons write rest ih =>
      obtain ⟨fresh, distinctRest⟩ := List.nodup_cons.mp distinct
      have step : mergeAll existing (write :: rest) =
          mergeAll (setIn existing write.1 write.2) rest := rfl
      constructor
      · intro same
        have said : Says existing write.1 := by
          have found := find?_mergeAll_of_fresh (setIn existing write.1 write.2) fresh
          rw [← step, same, find?_setIn, if_pos rfl] at found
          cases held : find? existing write.1.type with
          | none =>
              rw [held] at found
              cases found
          | some stored =>
              rw [held] at found
              have absorbed : stored.absorb write.1 write.2 = stored := (Option.some.inj found).symm
              exact ⟨stored, held, (absorb_eq_self_iff _ _ _).mp absorbed⟩
        rw [step, setIn_eq_self_of_says said] at same
        exact List.forall_mem_cons.mpr ⟨said, (ih distinctRest).mp same⟩
      · intro said
        obtain ⟨here, later⟩ := List.forall_mem_cons.mp said
        rw [step, setIn_eq_self_of_says here]
        exact (ih distinctRest).mpr later

theorem said_setIn (existing : List Condition) (written : Condition) (now : String) :
    Says (setIn existing written now) written := by
  unfold Says
  rw [find?_setIn, if_pos rfl]
  cases find? existing written.type with
  | none => exact ⟨written, rfl, rfl, rfl, rfl⟩
  | some stored => exact ⟨stored.absorb written now, rfl, rfl, rfl, rfl⟩

/-- The merged list says all that was written. -/
theorem said_mergeAll (existing : List Condition) {written : List (Condition × String)}
    (distinct : (writtenTypes written).Nodup) :
    ∀ write ∈ written, Says (mergeAll existing written) write.1 := by
  induction written generalizing existing with
  | nil =>
      intro write member
      cases member
  | cons head rest ih =>
      obtain ⟨fresh, distinctRest⟩ := List.nodup_cons.mp distinct
      refine List.forall_mem_cons.mpr ⟨?_, ih (setIn existing head.1 head.2) distinctRest⟩
      have said := said_setIn existing head.1 head.2
      unfold Says at said ⊢
      rwa [← find?_mergeAll_of_fresh _ fresh] at said

/-! ## The merged list -/

theorem setIn_eq_append {existing : List Condition} {written : Condition}
    (fresh : written.type ∉ existing.map Condition.type) (now : String) :
    setIn existing written now = existing ++ [written] := by
  induction existing with
  | nil => rfl
  | cons head rest ih =>
      simp only [List.map_cons, List.mem_cons, not_or] at fresh
      rw [setIn, if_neg (Ne.symm fresh.1), ih fresh.2]
      rfl

theorem mergeAll_eq_append {existing : List Condition} {written : List (Condition × String)}
    (distinct : (writtenTypes written).Nodup)
    (fresh : ∀ write ∈ written, write.1.type ∉ existing.map Condition.type) :
    mergeAll existing written = existing ++ written.map Prod.fst := by
  induction written generalizing existing with
  | nil => exact (List.append_nil existing).symm
  | cons write rest ih =>
      obtain ⟨unlike, distinctRest⟩ := List.nodup_cons.mp distinct
      obtain ⟨here, later⟩ := List.forall_mem_cons.mp fresh
      have step : mergeAll existing (write :: rest) =
          mergeAll (setIn existing write.1 write.2) rest := rfl
      rw [step, setIn_eq_append here, ih distinctRest, List.append_assoc]
      · rfl
      · intro other member
        have different : other.1.type ≠ write.1.type := fun same =>
          unlike (List.mem_map.mpr ⟨other, member, same⟩)
        simp [later other member, different]

/-- What a stored condition becomes, if it is the first of its type. -/
def overwritten (stored : Condition) (written : List (Condition × String)) : Condition :=
  match written.find? fun write => write.1.type = stored.type with
  | some write => stored.absorb write.1 write.2
  | none => stored

theorem overwritten_of_fresh {stored : Condition} {written : List (Condition × String)}
    (fresh : stored.type ∉ writtenTypes written) : stored.overwritten written = stored := by
  have unfound : written.find? (fun write => write.1.type = stored.type) = none := by
    refine List.find?_eq_none.mpr fun write member found => fresh ?_
    exact List.mem_map.mpr ⟨write, member, of_decide_eq_true found⟩
  rw [overwritten, unfound]

theorem overwritten_of_mem {stored : Condition} {written : List (Condition × String)}
    (distinct : (writtenTypes written).Nodup) {write : Condition × String}
    (member : write ∈ written) (named : write.1.type = stored.type) :
    stored.overwritten written = stored.absorb write.1 write.2 := by
  induction written with
  | nil => cases member
  | cons head rest ih =>
      obtain ⟨unlike, distinctRest⟩ := List.nodup_cons.mp distinct
      rcases List.mem_cons.mp member with rfl | member
      · simp [overwritten, named]
      · have different : head.1.type ≠ stored.type := fun same =>
          unlike (List.mem_map.mpr ⟨write, member, named.trans same.symm⟩)
        rw [← ih distinctRest member]
        simp [overwritten, different]

/-- The first condition takes over the write of its type, and the other writes go on. -/
theorem mergeAll_cons (stored : Condition) (rest : List Condition)
    {written : List (Condition × String)} (distinct : (writtenTypes written).Nodup) :
    mergeAll (stored :: rest) written = stored.overwritten written ::
      mergeAll rest (written.filter fun write => write.1.type ≠ stored.type) := by
  induction written generalizing stored rest with
  | nil => rfl
  | cons write more ih =>
      obtain ⟨unlike, distinctMore⟩ := List.nodup_cons.mp distinct
      have step : mergeAll (stored :: rest) (write :: more) =
          mergeAll (setIn (stored :: rest) write.1 write.2) more := rfl
      rw [step, setIn]
      by_cases same : stored.type = write.1.type
      · have fresh : stored.type ∉ writtenTypes more := by
          rw [same]
          exact unlike
        rw [if_pos same, ih _ rest distinctMore, overwritten_of_fresh (by exact fresh)]
        simp [overwritten, same, absorb]
      · rw [if_neg same, ih stored _ distinctMore]
        simp [overwritten, Ne.symm same, mergeAll]

/-- A list of conditions that were merged: the old ones in their order, with the first of each
written type written over, and then the written ones of new types in theirs. -/
structure MergedInto (existing : List Condition) (written : List (Condition × String))
    (merged : List Condition) : Prop where
  first : ∀ before stored after, existing = before ++ stored :: after →
    stored.type ∉ before.map Condition.type →
    ∀ write ∈ written, write.1.type = stored.type →
      merged[before.length]? = some (stored.absorb write.1 write.2)
  carried : ∀ before stored after, existing = before ++ stored :: after →
    (stored.type ∈ before.map Condition.type ∨ stored.type ∉ writtenTypes written) →
    merged[before.length]? = some stored
  added : merged.drop existing.length =
    (written.map Prod.fst).filter fun condition => condition.type ∉ existing.map Condition.type

theorem mergedInto (existing : List Condition) {written : List (Condition × String)}
    (distinct : (writtenTypes written).Nodup) :
    MergedInto existing written (mergeAll existing written) := by
  induction existing generalizing written with
  | nil =>
      refine ⟨?_, ?_, ?_⟩
      · intro before stored after split
        cases before <;> cases split
      · intro before stored after split
        cases before <;> cases split
      · rw [mergeAll_eq_append distinct fun _ _ => List.not_mem_nil]
        exact (List.filter_eq_self.mpr fun _ _ => by simp).symm
  | cons head rest ih =>
      have distinctOthers :
          (writtenTypes (written.filter fun write => write.1.type ≠ head.type)).Nodup :=
        distinct.sublist (List.filter_sublist.map _)
      obtain ⟨first, carried, added⟩ := ih distinctOthers
      rw [mergeAll_cons head rest distinct]
      refine ⟨?_, ?_, ?_⟩
      · intro before stored after split fresh write member named
        cases before with
        | nil =>
            obtain ⟨rfl, rfl⟩ := List.cons_eq_cons.mp split
            rw [overwritten_of_mem distinct member named]
            rfl
        | cons earlier before =>
            obtain ⟨rfl, later⟩ := List.cons_eq_cons.mp split
            simp only [List.map_cons, List.mem_cons, not_or] at fresh
            refine first before stored after later fresh.2 write ?_ named
            exact List.mem_filter.mpr ⟨member, by simp [named, fresh.1]⟩
      · intro before stored after split kept
        cases before with
        | nil =>
            obtain ⟨rfl, rfl⟩ := List.cons_eq_cons.mp split
            have unwritten : head.type ∉ writtenTypes written :=
              kept.resolve_left (by simp)
            rw [overwritten_of_fresh unwritten]
            rfl
        | cons earlier before =>
            obtain ⟨rfl, later⟩ := List.cons_eq_cons.mp split
            refine carried before stored after later ?_
            by_cases repeated : stored.type ∈ before.map Condition.type
            · exact .inl repeated
            · refine .inr fun member => ?_
              obtain ⟨write, other, named⟩ := List.mem_map.mp member
              obtain ⟨written, different⟩ := List.mem_filter.mp other
              rcases kept with kept | kept
              · rcases List.mem_cons.mp kept with same | kept
                · exact of_decide_eq_true different (named.trans same)
                · exact repeated kept
              · exact kept (List.mem_map.mpr ⟨write, written, named⟩)
      · rw [List.length_cons, List.drop_succ_cons, added, List.filter_map, List.filter_map,
          List.filter_filter]
        refine congrArg (List.map Prod.fst) (List.filter_congr fun write _ => ?_)
        simp only [Function.comp_apply, List.map_cons, List.mem_cons, not_or,
          Bool.decide_and, Bool.and_comm]

/-! ## Conditions of other types -/

def ofOtherTypes (types : List String) (conditions : List Condition) : List Condition :=
  conditions.filter fun condition => condition.type ∉ types

theorem ofOtherTypes_setIn {types : List String} {written : Condition}
    (member : written.type ∈ types) (existing : List Condition) (now : String) :
    ofOtherTypes types (setIn existing written now) = ofOtherTypes types existing := by
  unfold ofOtherTypes
  induction existing with
  | nil => simp [setIn, member]
  | cons stored rest ih =>
      rw [setIn]
      by_cases same : stored.type = written.type
      · simp [same, member, absorb]
      · rw [if_neg same, List.filter_cons, List.filter_cons, ih]

/-- Conditions of types that are not written are carried over in their order. -/
theorem ofOtherTypes_mergeAll {types : List String} {written : List (Condition × String)}
    (members : ∀ write ∈ written, write.1.type ∈ types) (existing : List Condition) :
    ofOtherTypes types (mergeAll existing written) = ofOtherTypes types existing := by
  induction written generalizing existing with
  | nil => rfl
  | cons write rest ih =>
      obtain ⟨here, later⟩ := List.forall_mem_cons.mp members
      exact (ih later _).trans (ofOtherTypes_setIn here existing write.2)

end Registrar.Condition
