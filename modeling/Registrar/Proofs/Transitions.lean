import Mathlib.Data.List.Induction
import Registrar.Proofs.Conditions
/-!
# Transitions of conditions

Conditions are written again and again, each time with a new reading of the clock. What a list says
about a type is what was written last. The time of its last transition is older: it is the clock of
the last write that changed the status, whatever times the written conditions carry themselves.
-/

set_option autoImplicit false

namespace Registrar.Condition

/-! ## What was written of a type -/

def writesOf (type : String) (written : List (Condition × String)) : List (Condition × String) :=
  written.filter fun write => write.1.type = type

/-- The status of a type after writes: the one that was written last, or else the one it had. There
is none as long as there is no condition of the type. -/
def statusAfter (existing : List Condition) (written : List (Condition × String)) (type : String) :
    Option ConditionStatus :=
  ((writesOf type written).getLast?.map fun write => write.1.status).or
    ((find? existing type).map Condition.status)

/-- After the writes in the past, this one changes the status of its type. -/
def Turns (existing : List Condition) (past : List (Condition × String))
    (write : Condition × String) : Prop :=
  ∃ status, statusAfter existing past write.1.type = some status ∧ status ≠ write.1.status

/-- After the writes in the past, none of the later ones changes the status of the type. -/
def Steady (existing : List Condition) (past later : List (Condition × String))
    (type : String) : Prop :=
  ∀ before write after, later = before ++ write :: after → write.1.type = type →
    ¬ Turns existing (past ++ before) write

/-- Where the time of the last transition of a type comes from. -/
inductive TransitionTime (existing : List Condition) (written : List (Condition × String))
    (type : String) : String → Prop where
  /-- The last write that changed the status has read the clock. -/
  | turned {before after : List (Condition × String)} {write : Condition × String} :
      written = before ++ write :: after → write.1.type = type → Turns existing before write →
      Steady existing (before ++ [write]) after type →
      TransitionTime existing written type write.2
  /-- The status is still the one from the beginning. -/
  | initial {stored : Condition} :
      find? existing type = some stored → Steady existing [] written type →
      TransitionTime existing written type stored.lastTransitionTime
  /-- The status is still the one of the write that has added the type. -/
  | added {write : Condition × String} :
      find? existing type = none → (writesOf type written).head? = some write →
      Steady existing [] written type →
      TransitionTime existing written type write.1.lastTransitionTime

theorem writesOf_append (type : String) (first last : List (Condition × String)) :
    writesOf type (first ++ last) = writesOf type first ++ writesOf type last :=
  List.filter_append ..

theorem writesOf_singleton (type : String) (write : Condition × String) :
    writesOf type [write] = if write.1.type = type then [write] else [] := by
  by_cases same : write.1.type = type <;> simp [writesOf, same]

theorem statusAfter_append (existing : List Condition) (written : List (Condition × String))
    (write : Condition × String) (type : String) :
    statusAfter existing (written ++ [write]) type =
      if write.1.type = type then some write.1.status else statusAfter existing written type := by
  unfold statusAfter
  rw [writesOf_append, writesOf_singleton]
  split <;> simp

theorem mergeAll_append (existing : List Condition) (first last : List (Condition × String)) :
    mergeAll existing (first ++ last) = mergeAll (mergeAll existing first) last :=
  List.foldl_append

theorem mergeAll_append_singleton (existing : List Condition)
    (written : List (Condition × String)) (write : Condition × String) :
    mergeAll existing (written ++ [write]) =
      setIn (mergeAll existing written) write.1 write.2 :=
  mergeAll_append existing written [write]

theorem status_find?_mergeAll (existing : List Condition) (written : List (Condition × String))
    (type : String) :
    (find? (mergeAll existing written) type).map Condition.status =
      statusAfter existing written type := by
  induction written using List.reverseRecOn with
  | nil => simp [mergeAll, statusAfter, writesOf]
  | append_singleton written write ih =>
      rw [mergeAll_append_singleton, find?_setIn, statusAfter_append]
      by_cases same : write.1.type = type
      · subst same
        cases find? (mergeAll existing written) write.1.type <;> simp [absorb]
      · rw [if_neg (Ne.symm same), if_neg same, ih]

/-! ## The time of the last transition -/

section Times

variable {existing : List Condition} {written : List (Condition × String)}
  {write : Condition × String} {type : String}

theorem Steady.append {past later : List (Condition × String)}
    (steady : Steady existing past later type)
    (kept : write.1.type = type → ¬ Turns existing (past ++ later) write) :
    Steady existing past (later ++ [write]) type := by
  intro before other after split named
  rcases List.eq_nil_or_concat after with rfl | ⟨rest, last, rfl⟩
  · obtain ⟨rfl, rfl⟩ := List.append_singleton_inj.mp split
    exact kept named
  · rw [List.concat_eq_append, ← List.cons_append, ← List.append_assoc] at split
    obtain ⟨rfl, rfl⟩ := List.append_singleton_inj.mp split
    exact steady before other rest rfl named

theorem steady_nil (past : List (Condition × String)) : Steady existing past [] type := by
  intro before other after split
  cases before <;> cases split

theorem writesOf_eq_nil_of_absent (absent : statusAfter existing written type = none) :
    writesOf type written = [] := by
  simpa using (Option.or_eq_none_iff.mp absent).1

/-- Before there is a condition of the type, its status cannot change. -/
theorem steady_of_absent (absent : statusAfter existing written type = none) :
    Steady existing [] written type := by
  intro before other after split named
  have member : other ∈ writesOf type written :=
    List.mem_filter.mpr ⟨split ▸ List.mem_append_right _ (.head _), decide_eq_true named⟩
  rw [writesOf_eq_nil_of_absent absent] at member
  cases member

/-- A write that leaves the status of a type alone leaves the time of its last transition alone. -/
theorem TransitionTime.append {time : String} (told : TransitionTime existing written type time)
    (kept : write.1.type = type → ¬ Turns existing written write) :
    TransitionTime existing (written ++ [write]) type time := by
  cases told with
  | @turned before after earlier split named turns steady =>
      have longer : written ++ [write] = before ++ earlier :: (after ++ [write]) := by
        rw [split, List.append_assoc, List.cons_append]
      refine .turned longer named turns ?_
      refine steady.append fun same => ?_
      rw [List.append_assoc, List.singleton_append, ← split]
      exact kept same
  | initial found steady => exact .initial found (steady.append kept)
  | added missing first steady =>
      refine .added missing ?_ (steady.append kept)
      rw [writesOf_append, List.head?_append, first]
      rfl

/-- The time that a list tells for a type is where it should come from. -/
theorem transitionTime_find? {stored : Condition}
    (found : find? (mergeAll existing written) type = some stored) :
    TransitionTime existing written type stored.lastTransitionTime := by
  -- From the last write backwards, because it decides whether the earlier times still count.
  induction written using List.reverseRecOn generalizing stored with
  | nil => exact .initial found (steady_nil [])
  | append_singleton written write ih =>
      have status := status_find?_mergeAll existing written type
      rw [mergeAll_append_singleton, find?_setIn] at found
      by_cases named : type = write.1.type
      · subst named
        rw [if_pos rfl] at found
        cases held : find? (mergeAll existing written) write.1.type with
        | none =>
            rw [held] at found status
            obtain rfl := Option.some.inj found
            have absent : statusAfter existing written write.1.type = none := status.symm
            refine .added ?_ ?_ ((steady_of_absent absent).append ?_)
            · simpa using (Option.or_eq_none_iff.mp absent).2
            · rw [writesOf_append, writesOf_eq_nil_of_absent absent, writesOf_singleton,
                if_pos rfl]
              rfl
            · rintro - ⟨status, known, -⟩
              exact nomatch absent.symm.trans known
        | some earlier =>
            rw [held] at found status
            have known : statusAfter existing written write.1.type = some earlier.status :=
              status.symm
            have absorbed : earlier.absorb write.1 write.2 = stored := Option.some.inj found
            subst absorbed
            by_cases same : earlier.status = write.1.status
            · rw [show (earlier.absorb write.1 write.2).lastTransitionTime =
                earlier.lastTransitionTime from if_pos same]
              refine (ih held).append ?_
              rintro - ⟨status, told, different⟩
              cases known.symm.trans told
              exact different same
            · rw [show (earlier.absorb write.1 write.2).lastTransitionTime = write.2 from
                if_neg same]
              exact .turned rfl rfl ⟨_, known, same⟩ (steady_nil _)
      · rw [if_neg named] at found
        exact (ih found).append fun same => absurd same.symm named

end Times

/-! ## Types and places -/

theorem map_type_setIn (existing : List Condition) (written : Condition) (now : String) :
    (setIn existing written now).map Condition.type =
      if written.type ∈ existing.map Condition.type then existing.map Condition.type
      else existing.map Condition.type ++ [written.type] := by
  fun_induction setIn existing written now <;> grind [absorb]

theorem eraseDups_append_singleton (names : List String) (name : String) :
    (names ++ [name]).eraseDups =
      if name ∈ names then names.eraseDups else names.eraseDups ++ [name] := by
  rw [List.eraseDups_append]
  split <;> simp [List.removeAll, List.eraseDups_cons, *]

/-- The types of a list stay where they are, and new ones come after them in the order of their
first writes. -/
theorem map_type_mergeAll (existing : List Condition) (written : List (Condition × String)) :
    (mergeAll existing written).map Condition.type =
      existing.map Condition.type ++
        (writtenTypes written).eraseDups.filter (· ∉ existing.map Condition.type) := by
  induction written using List.reverseRecOn with
  | nil => simp [mergeAll]
  | append_singleton written write ih =>
      have types : writtenTypes (written ++ [write]) = writtenTypes written ++ [write.1.type] :=
        List.map_append
      rw [mergeAll_append_singleton, map_type_setIn, ih, types, eraseDups_append_singleton]
      generalize existing.map Condition.type = held
      by_cases stored : write.1.type ∈ held
      · rw [if_pos (List.mem_append_left _ stored)]
        split <;> simp [List.filter_append, stored]
      · by_cases known : write.1.type ∈ writtenTypes written <;>
          simp [List.filter_append, stored, known]

theorem mem_types_mergeAll (existing : List Condition) (written : List (Condition × String))
    (type : String) :
    type ∈ (mergeAll existing written).map Condition.type ↔
      type ∈ existing.map Condition.type ∨ type ∈ writtenTypes written := by
  rw [map_type_mergeAll, List.mem_append, List.mem_filter, List.mem_eraseDups]
  by_cases stored : type ∈ existing.map Condition.type <;> simp [stored]

/-- Of a type there are as many conditions as before, or one if there was none. -/
theorem count_types_mergeAll_le (existing : List Condition)
    (written : List (Condition × String)) (type : String) :
    ((mergeAll existing written).map Condition.type).count type ≤
      max 1 ((existing.map Condition.type).count type) := by
  induction written using List.reverseRecOn with
  | nil => exact Nat.le_max_right _ _
  | append_singleton written write ih =>
      rw [mergeAll_append_singleton, map_type_setIn]
      split
      · exact ih
      · next fresh =>
          by_cases same : write.1.type = type
          · subst same
            rw [List.count_append, List.count_eq_zero.mpr fresh, List.count_singleton_self]
            exact Nat.le_max_left _ _
          · rwa [List.count_append, List.count_singleton, beq_false_of_ne same, if_neg (by simp)]

/-- A condition that is not the first of the written type stays as it is, in its place. -/
theorem exists_split_setIn {before : List Condition} {stored written : Condition}
    (kept : stored.type ∈ before.map Condition.type ∨ stored.type ≠ written.type)
    (after : List Condition) (now : String) :
    ∃ earlier later, setIn (before ++ stored :: after) written now = earlier ++ stored :: later ∧
      earlier.map Condition.type = before.map Condition.type := by
  induction before with
  | nil =>
      have different : stored.type ≠ written.type := kept.resolve_left (by simp)
      exact ⟨[], setIn after written now, if_neg different, rfl⟩
  | cons head before ih =>
      by_cases same : head.type = written.type
      · exact ⟨head.absorb written now :: before, after, if_pos same, rfl⟩
      · have still : stored.type ∈ before.map Condition.type ∨ stored.type ≠ written.type := by
          rcases kept with member | different
          · rcases List.mem_cons.mp member with named | member
            · exact .inr (named ▸ same)
            · exact .inl member
          · exact .inr different
        obtain ⟨earlier, later, split, types⟩ := ih still
        refine ⟨head :: earlier, later, ?_, by simp [types]⟩
        rw [List.cons_append, setIn, if_neg same, split]
        rfl

theorem exists_split_mergeAll {before : List Condition} {stored : Condition}
    {written : List (Condition × String)}
    (kept : stored.type ∈ before.map Condition.type ∨ stored.type ∉ writtenTypes written)
    (after : List Condition) :
    ∃ earlier later, mergeAll (before ++ stored :: after) written = earlier ++ stored :: later ∧
      earlier.map Condition.type = before.map Condition.type := by
  induction written generalizing before after with
  | nil => exact ⟨before, after, rfl, rfl⟩
  | cons write rest ih =>
      have here : stored.type ∈ before.map Condition.type ∨ stored.type ≠ write.1.type :=
        kept.imp_right fun fresh same => fresh (same ▸ .head _)
      obtain ⟨earlier, later, split, types⟩ := exists_split_setIn here after write.2
      have still : stored.type ∈ earlier.map Condition.type ∨
          stored.type ∉ writtenTypes rest := by
        rw [types]
        exact kept.imp_right fun fresh member => fresh (.tail _ member)
      obtain ⟨first, last, merged, same⟩ := ih still later
      refine ⟨first, last, ?_, same.trans types⟩
      rw [← merged, ← split]
      rfl

/-! ## Times that the writes carry -/

/-- A condition with another time of its own. -/
def timed (condition : Condition) (time : String) : Condition :=
  { condition with lastTransitionTime := time }

/-- Where there is a condition of the type, the time that the written one carries does not count. -/
theorem setIn_timed {existing : List Condition} {written : Condition}
    (known : written.type ∈ existing.map Condition.type) (time now : String) :
    setIn existing (written.timed time) now = setIn existing written now := by
  induction existing with
  | nil => cases known
  | cons head rest ih =>
      by_cases same : head.type = written.type
      · exact (if_pos same).trans (if_pos same).symm
      · have member : written.type ∈ rest.map Condition.type :=
          (List.mem_cons.mp known).resolve_left (Ne.symm same)
        exact (if_neg same).trans ((congrArg (head :: ·) (ih member)).trans (if_neg same).symm)

/-! ## The history of a list -/

/-- What a list of conditions tells after writes, each with its reading of the clock. -/
structure History (existing : List Condition) (written : List (Condition × String))
    (merged : List Condition) : Prop where
  /-- Of each written type the list says what was written last. -/
  said : ∀ before write after, written = before ++ write :: after →
    write.1.type ∉ writtenTypes after → Says merged write.1
  /-- The time of the last transition of a type has one of three origins. -/
  transition : ∀ type stored, find? merged type = some stored →
    TransitionTime existing written type stored.lastTransitionTime
  /-- The time that a written condition carries counts only if it adds its type. -/
  uncarried : ∀ before write after, written = before ++ write :: after →
    write.1.type ∈ existing.map Condition.type ∨ write.1.type ∈ writtenTypes before →
    ∀ time, mergeAll existing (before ++ (write.1.timed time, write.2) :: after) = merged
  /-- What is not the first condition of a written type stays as it is, in its place. -/
  kept : ∀ before stored after, existing = before ++ stored :: after →
    stored.type ∈ before.map Condition.type ∨ stored.type ∉ writtenTypes written →
    merged[before.length]? = some stored
  /-- New types come after the old ones, in the order of their first writes. -/
  types : merged.map Condition.type = existing.map Condition.type ++
    (writtenTypes written).eraseDups.filter (· ∉ existing.map Condition.type)
  undoubled : ∀ type, (merged.map Condition.type).count type ≤
    max 1 ((existing.map Condition.type).count type)
  /-- Writing the last condition once more, at whatever time, changes nothing. -/
  settled : ∀ before write, written = before ++ [write] →
    ∀ later, setIn merged write.1 later = merged

/-- For all lists and all sequences of writes, the list tells what was written last, and since when
it has been so. -/
theorem history_of_writes (existing : List Condition) (written : List (Condition × String)) :
    History existing written (mergeAll existing written) := by
  refine ⟨?_, fun type stored => transitionTime_find?, ?_, ?_, map_type_mergeAll existing written,
    count_types_mergeAll_le existing written, ?_⟩
  · intro before write after split last
    have said := said_setIn (mergeAll existing before) write.1 write.2
    unfold Says at said ⊢
    rw [← find?_mergeAll_of_fresh _ last] at said
    rwa [split, mergeAll_append]
  · intro before write after split known time
    have present := (mem_types_mergeAll existing before write.1.type).mpr known
    have same := setIn_timed present time write.2
    rw [split, mergeAll_append, mergeAll_append]
    exact congrArg (mergeAll · after) same
  · intro before stored after split kept
    obtain ⟨earlier, later, merged, types⟩ := exists_split_mergeAll kept after
    have place : earlier.length = before.length := by simpa using congrArg List.length types
    rw [split, merged, ← place]
    simp
  · intro before write split later
    rw [split, mergeAll_append_singleton]
    exact setIn_eq_self_of_says (said_setIn _ _ _) later

/-- A status that goes back and forth, and is told again in the end: what counts is the clock of the
last change. -/
example :
    (find? (mergeAll [] [(new "Ready" .true "0", "1"), (new "Ready" .false "0", "2"),
      (new "Ready" .true "0", "3"), (new "Ready" .true "0", "4")]) "Ready").map
        Condition.lastTransitionTime = some "3" := by
  decide

end Registrar.Condition
