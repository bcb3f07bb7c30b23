import Mathlib.Data.List.Induction
import Registrar.Controller.Machine
import Registrar.Proofs.Controller.Delays
/-!
# The schedule of retries

What a controller plans after a cycle depends on the results of the cycles before it in one number
only: how many failures have come since the last success. The delays are told here in exact numbers,
for any sequence of results.
-/

set_option autoImplicit false

namespace Registrar

/-! ## Who is to blame -/

namespace Failure

/-- A part of a failure: the failure itself, or a part of a member if it is an aggregate. -/
inductive PartOf (part : Failure) : Failure → Prop where
  | self : PartOf part part
  | member {members : List Failure} {failure : Failure} :
      failure ∈ members → PartOf part failure → PartOf part (.aggregate members)

/-- It was the cluster that failed, or a registration that is not served. -/
inductive BlamesCluster : Failure → Prop where
  | cluster (cause : ClusterFailure) : BlamesCluster (.cluster cause)
  | unavailable (text : String) : BlamesCluster (.unavailable text)

/-- Somewhere in the failure the cluster is to blame. -/
def IsTransient (failure : Failure) : Prop :=
  ∃ part, PartOf part failure ∧ BlamesCluster part

theorem isTransient_aggregate_iff (members : List Failure) :
    IsTransient (.aggregate members) ↔ ∃ failure ∈ members, IsTransient failure := by
  constructor
  · intro transient
    obtain ⟨part, inside, blames⟩ := transient
    cases inside with
    | self => cases blames
    | member member inside => exact ⟨_, member, part, inside, blames⟩
  · intro transient
    obtain ⟨failure, member, part, inside, blames⟩ := transient
    exact ⟨part, .member member inside, blames⟩

theorem isTransient_iff_of_leaf {failure : Failure}
    (leaf : ∀ members, failure ≠ .aggregate members) :
    IsTransient failure ↔ BlamesCluster failure := by
  constructor
  · intro transient
    obtain ⟨part, inside, blames⟩ := transient
    cases inside with
    | self => exact blames
    | member => exact absurd rfl (leaf _)
  · intro blames
    exact ⟨failure, .self, blames⟩

mutual

theorem isRetriable_iff : (failure : Failure) → (failure.isRetriable = true ↔ IsTransient failure)
  | cluster cause => iff_of_true rfl ⟨_, .self, .cluster cause⟩
  | unavailable text => iff_of_true rfl ⟨_, .self, .unavailable text⟩
  | aggregate members => by
      rw [isRetriable, anyRetriable_iff members, isTransient_aggregate_iff]
  | encoding _ | manifest _ | io _ | config _ | notFound _ _ | shuttingDown _ => by
      rw [isTransient_iff_of_leaf (by simp)]
      exact iff_of_false (by simp [isRetriable]) (by rintro ⟨⟩)

theorem anyRetriable_iff : (failures : List Failure) →
    (anyRetriable failures = true ↔ ∃ failure ∈ failures, IsTransient failure)
  | [] => by simp [anyRetriable]
  | failure :: rest => by
      rw [anyRetriable, Bool.or_eq_true, isRetriable_iff failure, anyRetriable_iff rest]
      simp only [List.mem_cons, exists_eq_or_imp]

end

def isShutdown : Failure → Bool
  | shuttingDown _ => true
  | _ => false

end Failure

namespace Controller

/-! ## Results in a row -/

/-- The end of a cycle for a key: when it was started, when it ended, and its result. -/
structure Ending where
  key : ObjectKey
  since : Nat
  now : Nat
  result : Except Failure Unit

namespace Ending

def succeeded (ending : Ending) : Bool :=
  ending.result.isOk

/-- Whether it adds to the streak of failures. -/
def counts (ending : Ending) : Bool :=
  match ending.result with
  | .ok () => false
  | .error failure => !failure.isShutdown

def failedAs (kind : String) (ending : Ending) : Bool :=
  match ending.result with
  | .ok () => false
  | .error failure => failure.kind = kind

end Ending

/-- How many failures have come since the last success. Shutdowns do not count. -/
def failuresSinceSuccess (endings : List Ending) : Nat :=
  (endings.reverse.takeWhile fun ending => !ending.succeeded).countP Ending.counts

theorem failuresSinceSuccess_append (endings : List Ending) (ending : Ending) :
    failuresSinceSuccess (endings ++ [ending]) =
      if ending.succeeded then 0
      else failuresSinceSuccess endings + if ending.counts then 1 else 0 := by
  unfold failuresSinceSuccess
  rw [List.reverse_append, List.reverse_singleton, List.singleton_append, List.takeWhile_cons]
  cases ending.succeeded <;> simp [List.countP_cons]

theorem failuresSinceSuccess_le_append (endings : List Ending) {later : List Ending}
    (unsuccessful : ∀ ending ∈ later, ending.succeeded = false) :
    failuresSinceSuccess endings ≤ failuresSinceSuccess (endings ++ later) := by
  induction later generalizing endings with
  | nil => exact Nat.le_of_eq (congrArg failuresSinceSuccess (List.append_nil endings).symm)
  | cons ending rest ih =>
      obtain ⟨here, there⟩ := List.forall_mem_cons.mp unsuccessful
      have step : failuresSinceSuccess endings ≤ failuresSinceSuccess (endings ++ [ending]) := by
        rw [failuresSinceSuccess_append, here]
        exact Nat.le_add_right _ _
      rw [List.append_cons]
      exact Nat.le_trans step (ih (endings ++ [ending]) there)

/-! ## One cycle -/

namespace Machine

def conclude (machine : Machine) (ending : Ending) : Machine :=
  machine.afterCycle ending.key ending.since ending.now ending.result

def concludeAll (machine : Machine) (endings : List Ending) : Machine :=
  endings.foldl conclude machine

theorem concludeAll_append (machine : Machine) (first last : List Ending) :
    machine.concludeAll (first ++ last) = (machine.concludeAll first).concludeAll last :=
  List.foldl_append

def actionAfter (machine : Machine) (ending : Ending) : Action :=
  (Controller.afterCycle machine.settings.resync machine.streak ending.result).1

theorem settings_reschedule (machine : Machine) (key : ObjectKey) (now : Nat) (action : Action) :
    (machine.reschedule key now action).settings = machine.settings := by
  cases action <;> rfl

theorem streak_reschedule (machine : Machine) (key : ObjectKey) (now : Nat) (action : Action) :
    (machine.reschedule key now action).streak = machine.streak := by
  cases action <;> rfl

theorem metrics_reschedule (machine : Machine) (key : ObjectKey) (now : Nat) (action : Action) :
    (machine.reschedule key now action).metrics = machine.metrics := by
  cases action <;> rfl

theorem settings_conclude (machine : Machine) (ending : Ending) :
    (machine.conclude ending).settings = machine.settings := by
  unfold conclude afterCycle
  dsimp only
  rw [settings_reschedule]
  cases ending.result <;> rfl

theorem streak_conclude (machine : Machine) (ending : Ending) :
    (machine.conclude ending).streak =
      (Controller.afterCycle machine.settings.resync machine.streak ending.result).2 := by
  unfold conclude afterCycle
  dsimp only
  rw [streak_reschedule]

theorem queue_conclude (machine : Machine) (ending : Ending) :
    (machine.conclude ending).queue =
      (machine.reschedule ending.key ending.now (machine.actionAfter ending)).queue := by
  unfold conclude afterCycle actionAfter
  dsimp only
  cases ending.result with
  | ok => rfl
  | error failure =>
      cases (Controller.afterCycle machine.settings.resync machine.streak (.error failure)).1 <;> rfl

theorem cycleFailures_conclude (machine : Machine) (ending : Ending) (labels : String × String) :
    ((machine.conclude ending).metrics.cycleFailures.get? labels).getD 0 =
      (machine.metrics.cycleFailures.get? labels).getD 0 +
        if labels.1 = label ∧ ending.failedAs labels.2 then 1 else 0 := by
  unfold conclude afterCycle Ending.failedAs
  dsimp only
  rw [metrics_reschedule]
  cases ending.result with
  | ok => simp [observeResult, observe, Metrics.observe]
  | error failure =>
      simp only [observeResult, observe, Metrics.observe, Family.get?_alter, decide_eq_true_eq]
      by_cases same : labels = (label, failure.kind)
      · rw [if_pos same, if_pos ⟨congrArg Prod.fst same, (congrArg Prod.snd same).symm⟩, same]
        rfl
      · rw [if_neg same, if_neg fun both => same (Prod.ext both.1 both.2.symm)]
        rfl

end Machine

/-! ## Many cycles -/

namespace Machine

theorem settings_concludeAll (machine : Machine) (endings : List Ending) :
    (machine.concludeAll endings).settings = machine.settings := by
  induction endings generalizing machine with
  | nil => rfl
  | cons ending rest ih =>
      exact (ih (machine.conclude ending)).trans (machine.settings_conclude ending)

end Machine

theorem afterCycle_of_failure {failure : Failure} (serious : failure.isShutdown = false)
    (resync : UInt64) (streak : UInt32) :
    afterCycle resync streak (.error failure) =
      (.requeue (retryDelay failure streak), streak + 1) := by
  cases failure <;> first | rfl | cases serious

/-- The streak is the number of failures since the last success, as far as 32 bits can tell. -/
theorem toNat_streak_concludeAll {machine : Machine} (fresh : machine.streak = 0)
    (endings : List Ending) :
    (machine.concludeAll endings).streak.toNat = failuresSinceSuccess endings % 2 ^ 32 := by
  -- From the last cycle backwards, because a streak depends on what came before.
  induction endings using List.reverseRecOn with
  | nil => rw [show (machine.concludeAll []).streak = 0 from fresh]; rfl
  | append_singleton endings ending ih =>
      rw [machine.concludeAll_append, failuresSinceSuccess_append]
      refine (congrArg UInt32.toNat (Machine.streak_conclude _ ending)).trans ?_
      unfold Ending.succeeded Ending.counts
      cases ending.result with
      | ok => rfl
      | error failure =>
          cases shutDown : failure.isShutdown with
          | true =>
              cases failure <;> cases shutDown
              exact ih
          | false =>
              rw [afterCycle_of_failure shutDown, UInt32.toNat_add, ih]
              simp [shutDown, Except.isOk, Except.toBool]

/-! ## Delays -/

theorem toNat_retryDelay (failure : Failure) (streak : UInt32) :
    (retryDelay failure streak).toNat =
      if failure.isRetriable then min (1 * 2 ^ streak.toNat) 60
      else min (15 * 2 ^ streak.toNat) 300 := by
  unfold retryDelay
  split
  · exact (Retry.delay_exact _ _).doubles InUse.transient.capReached streak
  · exact (Retry.delay_exact _ _).doubles InUse.lasting.capReached streak

/-- What is planned after a cycle that came after some others. -/
def Machine.actionAt (machine : Machine) (earlier : List Ending) (ending : Ending) : Action :=
  (machine.concludeAll earlier).actionAfter ending

/-- The delay after a failure, with the streak of failures as it was. -/
theorem actionAt_of_failure {machine : Machine} {ending : Ending} {failure : Failure}
    (failed : ending.result = .error failure) (serious : failure.isShutdown = false)
    (earlier : List Ending) :
    machine.actionAt earlier ending =
      .requeue (retryDelay failure (machine.concludeAll earlier).streak) := by
  unfold Machine.actionAt Machine.actionAfter
  rw [failed, afterCycle_of_failure serious]

/-- A delay starts at `least` seconds, doubles with each failure and stays within `most`. -/
structure Delays (least most failures : Nat) (seconds : UInt64) : Prop where
  least_le : least ≤ seconds.toNat
  le_most : seconds.toNat ≤ most
  exact : failures < 2 ^ 32 → seconds.toNat = min (least * 2 ^ failures) most

theorem delays_of_streak {machine : Machine} (fresh : machine.streak = 0) (earlier : List Ending)
    {least most : Nat} (ordered : least ≤ most) {seconds : UInt64}
    (told : seconds.toNat = min (least * 2 ^ (machine.concludeAll earlier).streak.toNat) most) :
    Delays least most (failuresSinceSuccess earlier) seconds := by
  refine ⟨?_, told ▸ Nat.min_le_right _ _, fun counted => ?_⟩
  · rw [told]
    exact Nat.le_min.mpr ⟨Nat.le_mul_of_pos_right _ (Nat.two_pow_pos _), ordered⟩
  · rw [told, toNat_streak_concludeAll fresh, Nat.mod_eq_of_lt counted]

theorem Delays.mono {least most failures more : Nat} {sooner later : UInt64}
    (first : Delays least most failures sooner) (second : Delays least most more later)
    (grown : failures ≤ more) (counted : more < 2 ^ 32) : sooner ≤ later := by
  have doubled : least * 2 ^ failures ≤ least * 2 ^ more :=
    Nat.mul_le_mul_left least (Nat.pow_le_pow_right (by decide) grown)
  rw [UInt64.le_iff_toNat_le, first.exact (Nat.lt_of_le_of_lt grown counted),
    second.exact counted]
  omega

/-- What is planned after one more cycle, given the cycles before it. -/
structure Planned (machine : Machine) (earlier : List Ending) (ending : Ending) : Prop where
  queued : (machine.concludeAll (earlier ++ [ending])).queue =
    ((machine.concludeAll earlier).reschedule ending.key ending.now
      (machine.actionAt earlier ending)).queue
  succeeded : ending.result = .ok () →
    machine.actionAt earlier ending = .requeue machine.settings.resync ∧
      (machine.concludeAll (earlier ++ [ending])).streak = 0
  shutDown : ∀ text, ending.result = .error (.shuttingDown text) →
    machine.actionAt earlier ending = .awaitChange ∧
      (machine.concludeAll (earlier ++ [ending])).streak = (machine.concludeAll earlier).streak
  transient : ∀ failure, ending.result = .error failure → failure.isShutdown = false →
    failure.IsTransient → ∃ seconds, machine.actionAt earlier ending = .requeue seconds ∧
      Delays 1 60 (failuresSinceSuccess earlier) seconds
  lasting : ∀ failure, ending.result = .error failure → failure.isShutdown = false →
    ¬ failure.IsTransient → ∃ seconds, machine.actionAt earlier ending = .requeue seconds ∧
      Delays 15 300 (failuresSinceSuccess earlier) seconds

theorem planned {machine : Machine} (fresh : machine.streak = 0) (earlier : List Ending)
    (ending : Ending) : Planned machine earlier ending := by
  have settings := machine.settings_concludeAll earlier
  have appended : machine.concludeAll (earlier ++ [ending]) =
      (machine.concludeAll earlier).conclude ending :=
    machine.concludeAll_append earlier [ending]
  refine ⟨?_, ?_, ?_, ?_, ?_⟩
  · rw [appended, Machine.queue_conclude]
    rfl
  · intro succeeded
    rw [appended, Machine.streak_conclude, Machine.actionAt, Machine.actionAfter, succeeded,
      settings]
    exact ⟨rfl, rfl⟩
  · intro text shutDown
    rw [appended, Machine.streak_conclude, Machine.actionAt, Machine.actionAfter, shutDown]
    exact ⟨rfl, rfl⟩
  · intro failure failed serious transient
    have delay := toNat_retryDelay failure (machine.concludeAll earlier).streak
    rw [if_pos (failure.isRetriable_iff.mpr transient)] at delay
    exact ⟨_, actionAt_of_failure failed serious earlier,
      delays_of_streak fresh earlier (by decide) delay⟩
  · intro failure failed serious lasting
    have delay := toNat_retryDelay failure (machine.concludeAll earlier).streak
    rw [if_neg (mt failure.isRetriable_iff.mp lasting)] at delay
    exact ⟨_, actionAt_of_failure failed serious earlier,
      delays_of_streak fresh earlier (by decide) delay⟩

/-- How a controller goes on after the cycles of a whole run. -/
structure Schedule (machine : Machine) (endings : List Ending) : Prop where
  planned : ∀ before ending after, endings = before ++ ending :: after →
    Planned machine before ending
  /-- Of two failures without a success between them the later one does not have the shorter delay,
  if both are to be blamed on the cluster, or neither is. -/
  patient : ∀ before first between second after,
    endings = before ++ first :: (between ++ second :: after) →
    (∀ ending ∈ between, ending.succeeded = false) →
    failuresSinceSuccess (before ++ first :: between) < 2 ^ 32 →
    ∀ failure other, first.result = .error failure → second.result = .error other →
    failure.isShutdown = false → other.isShutdown = false →
    (failure.IsTransient ↔ other.IsTransient) →
    ∃ sooner later, machine.actionAt before first = .requeue sooner ∧
      machine.actionAt (before ++ first :: between) second = .requeue later ∧ sooner ≤ later
  counted : ∀ labels : String × String,
    ((machine.concludeAll endings).metrics.cycleFailures.get? labels).getD 0 =
      (machine.metrics.cycleFailures.get? labels).getD 0 +
        if labels.1 = Machine.label then endings.countP (Ending.failedAs labels.2) else 0

theorem cycleFailures_concludeAll (machine : Machine) (endings : List Ending)
    (labels : String × String) :
    ((machine.concludeAll endings).metrics.cycleFailures.get? labels).getD 0 =
      (machine.metrics.cycleFailures.get? labels).getD 0 +
        if labels.1 = Machine.label then endings.countP (Ending.failedAs labels.2) else 0 := by
  induction endings generalizing machine with
  | nil => simp [Machine.concludeAll]
  | cons ending rest ih =>
      refine (ih (machine.conclude ending)).trans ?_
      rw [machine.cycleFailures_conclude, List.countP_cons]
      by_cases named : labels.1 = Machine.label
      · simp only [named, true_and, if_true]
        omega
      · simp [named]

/-- Whatever the results of cycles are, in whatever number and order: what is planned after each of
them follows from its own result and from the number of failures since the last success, the delays
are those of the exact doubling within their bounds, and every failure is counted under its kind. -/
theorem retries_follow_schedule {machine : Machine} (fresh : machine.streak = 0)
    (endings : List Ending) : Schedule machine endings := by
  refine ⟨fun before ending _ _ => Controller.planned fresh before ending, ?_,
    cycleFailures_concludeAll machine endings⟩
  intro before first between second after _ unsuccessful counted failure other failed failedAgain
    serious seriousAgain alike
  have grown : failuresSinceSuccess before ≤ failuresSinceSuccess (before ++ first :: between) := by
    refine failuresSinceSuccess_le_append before (List.forall_mem_cons.mpr ⟨?_, unsuccessful⟩)
    rw [Ending.succeeded, failed]
    rfl
  have once := Controller.planned fresh before first
  have again := Controller.planned fresh (before ++ first :: between) second
  by_cases transient : failure.IsTransient
  · obtain ⟨sooner, plan, delays⟩ := once.transient failure failed serious transient
    obtain ⟨later, planAgain, delaysAgain⟩ :=
      again.transient other failedAgain seriousAgain (alike.mp transient)
    exact ⟨sooner, later, plan, planAgain, delays.mono delaysAgain grown counted⟩
  · obtain ⟨sooner, plan, delays⟩ := once.lasting failure failed serious transient
    obtain ⟨later, planAgain, delaysAgain⟩ :=
      again.lasting other failedAgain seriousAgain (mt alike.mpr transient)
    exact ⟨sooner, later, plan, planAgain, delays.mono delaysAgain grown counted⟩

def sampleController : Machine where
  settings := { identity := ⟨"cluster", "default"⟩, resync := 10 }

/-- Cycles of one operator, a second apart, with these results. -/
def sampleEndings (results : List (Except Failure Unit)) : List Ending :=
  results.map fun result => ⟨⟨"cluster", none⟩, 0, 1000, result⟩

/-- Two failures, one of them with the cluster to blame deep inside, a shutdown, a success, and another
failure: the third failure counts the two before it, and the last one none. -/
theorem retries_follow_schedule_sample :
    let hidden : Failure := .aggregate [.io "disk full", .aggregate [.unavailable "not served"]]
    let failures := sampleEndings [.error (.io "disk full"), .error hidden,
      .error (.shuttingDown "stopping"), .error (.unavailable "not served")]
    let endings := failures ++ sampleEndings [.ok (), .error (.io "disk full")]
    sampleController.streak = 0 ∧ Schedule sampleController endings ∧
      failuresSinceSuccess failures = 3 ∧ failuresSinceSuccess endings = 1 ∧
      (endings.inits.zip endings).map (fun (earlier, ending) =>
        sampleController.actionAt earlier ending) =
        [.requeue 15, .requeue 2, .awaitChange, .requeue 4, .requeue 10, .requeue 15] := by
  intro hidden failures endings
  exact ⟨rfl, retries_follow_schedule rfl endings, by decide, by decide, by decide⟩

end Controller

end Registrar
