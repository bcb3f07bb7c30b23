import Registrar.Proofs.Acceptance
import Registrar.Proofs.Cycle.Course
import Registrar.World.Basic
/-!
# Cycles that fail before they act

A cycle opens with two reads: of its instruction, and of its lists. The lists come from the manifest
as a whole, so a defect anywhere in it is found before the first registration is touched. If one of
the reads fails, the cycle is over: its result is that failure, and it has done nothing else.
-/

set_option autoImplicit false

namespace Registrar.Cycle

variable {σ : Type}

def opening : List Call :=
  [.readMode, .listManaged]

/-- The cycle that starts in this state cannot be opened, for this reason. -/
inductive Unopened (answer : (question : Call) → StateM σ question.Reply) (state : σ) :
    Failure → Prop where
  | unread {after : σ} {failure : Failure} :
      (answer .readMode).run state = (.error failure, after) → Unopened answer state failure
  | unlisted {middle after : σ} {mode : ManagementState} {failure : Failure} :
      (answer .readMode).run state = (.ok mode, middle) → mode = .managed ∨ mode = .removed →
      (answer .listManaged).run middle = (.error failure, after) → Unopened answer state failure
  | refused {middle after : σ} {mode : ManagementState} {content : FileContent}
      {failure : Failure} :
      (answer .readMode).run state = (.ok mode, middle) → mode = .managed ∨ mode = .removed →
      (answer .listManaged).run middle = (content.managed, after) → content.Defective failure →
      Unopened answer state failure

/-- A performance failed with this failure as it is, asked for nothing but the reads that open a
cycle, and kept what these reads keep. -/
structure Untouched (answer : (question : Call) → StateM σ question.Reply) (state : σ)
    (failure : Failure) (performance : Performance σ) : Prop where
  result : performance.result = .error failure
  asked : performance.transcript.map Exchange.question <+: opening
  kept : ∀ {β : Type} (view : σ → β),
    (∀ question ∈ opening, ∀ before, view ((answer question).run before).2 = view before) →
      view performance.state = view state

variable {answer : (question : Call) → StateM σ question.Reply} {state middle after : σ}
  {failure : Failure}

theorem untouched_of_unread (read : (answer .readMode).run state = (.error failure, after))
    (prober : Bool) : Untouched answer state failure (perform answer prober state) := by
  rw [perform_eq (.unread failure) (.cons read (.nil after))]
  refine ⟨rfl, ⟨[.listManaged], rfl⟩, fun view keeps => ?_⟩
  have kept := keeps .readMode (by simp [opening]) state
  rwa [read] at kept

theorem untouched_of_unlisted {mode : ManagementState}
    (read : (answer .readMode).run state = (.ok mode, middle))
    (acting : mode = .managed ∨ mode = .removed)
    (listed : (answer .listManaged).run middle = (.error failure, after)) (prober : Bool) :
    Untouched answer state failure (perform answer prober state) := by
  rw [perform_eq (.unlisted acting failure) (.cons read (.cons listed (.nil after)))]
  refine ⟨rfl, ⟨[], rfl⟩, fun view keeps => ?_⟩
  have first := keeps .readMode (by simp [opening]) state
  have second := keeps .listManaged (by simp [opening]) middle
  rw [read] at first
  rw [listed] at second
  exact second.trans first

/-- A cycle whose instruction or lists cannot be read fails with just that failure and touches
nothing. -/
theorem opening_failure_touches_nothing (unopened : Unopened answer state failure) (prober : Bool) :
    Untouched answer state failure (perform answer prober state) := by
  cases unopened with
  | unread read => exact untouched_of_unread read prober
  | unlisted read acting listed => exact untouched_of_unlisted read acting listed prober
  | refused read acting listed defective =>
      rw [(FileContent.managed_eq_error_iff _ _).mpr defective] at listed
      exact untouched_of_unlisted read acting listed prober

theorem eq_ok_of_toOption {ε α : Type} {result : Except ε α} {value : α}
    (succeeded : result.toOption = some value) : result = .ok value := by
  cases result with
  | error => cases succeeded
  | ok => exact congrArg Except.ok (Option.some.inj succeeded)

def sampleEntry (name group : String) : ManifestEntry :=
  ⟨name, true, [], ⟨none, group, "v1", false, none, 1, 1⟩⟩

/-- A manifest with two entries, of which the second one is misnamed. -/
def sampleManifest : String :=
  "apiServices:\n- name: v1.users.io\n  spec:\n    group: users.io\n    version: v1\n" ++
  "    groupPriorityMinimum: 1\n    versionPriority: 1\n- name: metrics\n  spec:\n" ++
  "    group: metrics.io\n    version: v1\n    groupPriorityMinimum: 1\n    versionPriority: 1\n"

/-- A world with that manifest that is shutting down. -/
def sampleWorld : World where
  source := .file (.ofText sampleManifest)
  shutdown := ({} : Shutdown).trigger

/-- The entry before the misnamed one is not applied, and the shutdown does not show. -/
theorem opening_failure_touches_nothing_misnamed :
    let told : Failure :=
      .config "APIService metrics must be named v1.metrics.io after its version and group"
    Unopened World.answer sampleWorld told ∧
      Untouched World.answer sampleWorld told (perform World.answer true sampleWorld) ∧
      (perform World.answer true sampleWorld).state.store.objects = [] := by
  intro told
  have accepted : Yaml.readDocument Manifest.read sampleManifest =
      .ok ⟨[sampleEntry "v1.users.io" "users.io", sampleEntry "metrics" "metrics.io"]⟩ :=
    eq_ok_of_toOption (by decide +kernel)
  have misnamed : FileContent.Defective (.ofText sampleManifest) told :=
    .misnamed (FileContent.text_ofText _) accepted
      ⟨[sampleEntry "v1.users.io" "users.io"], sampleEntry "metrics" "metrics.io", [], rfl,
        by simp [ManifestEntry.WellNamed, ManifestEntry.expectedName, sampleEntry],
        by simp [ManifestEntry.WellNamed, ManifestEntry.expectedName, sampleEntry], rfl⟩
  have unopened : Unopened World.answer sampleWorld told :=
    .refused rfl (.inl rfl) rfl misnamed
  have untouched := opening_failure_touches_nothing unopened true
  refine ⟨unopened, untouched, untouched.kept (fun world => world.store.objects) ?_⟩
  intro question member before
  rcases List.mem_cons.mp member with rfl | member
  · rfl
  · obtain rfl := List.mem_singleton.mp member
    rfl

end Registrar.Cycle
