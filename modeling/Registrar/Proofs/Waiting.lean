import Registrar.Shutdown
/-!
# Waiting for the shutdown signal

Handles of the signal are cloned and given up to wait, by anybody and at any time, while the signal
is triggered or its trigger is dropped. A waiter looks and goes to sleep in two separate steps, so
anything can happen between them. The invariant that rules out a lost wake-up is about sleepers: the
version that one of them has seen is the present one just as long as nothing was triggered. From it
follows that a waiter is released after two more steps of its own once there is nothing left to wait
for, and never before.
-/

set_option autoImplicit false

namespace Registrar

namespace Shutdown

/-- Somebody who was given a handle, and may have given it up to wait. -/
inductive Party where
  | handle
  | waiter (waiter : Waiter)
deriving DecidableEq, Repr

/-- The signal and its parties. In the beginning there is one handle. -/
structure Scene where
  signal : Shutdown := {}
  parties : List Party := [.handle]
deriving DecidableEq, Repr

inductive Happening where
  | signalled (event : Event)
  | asked (party : Nat) (answer : Bool)
  | cloned (party : Nat)
  /-- A handle is given up, and its party waits from now on. -/
  | waited (party : Nat)
  | stepped (party : Nat)
deriving DecidableEq, Repr

namespace Scene

def Holds (scene : Scene) (party : Nat) : Prop :=
  scene.parties[party]? = some .handle

def Waits (scene : Scene) (party : Nat) (waiter : Waiter) : Prop :=
  scene.parties[party]? = some (.waiter waiter)

def put (scene : Scene) (party : Nat) (waiter : Waiter) : Scene :=
  { scene with parties := scene.parties.set party (.waiter waiter) }

theorem waits_put_self {scene : Scene} {party : Nat} {old : Party}
    (present : scene.parties[party]? = some old) (waiter : Waiter) :
    (scene.put party waiter).Waits party waiter := by
  obtain ⟨inside, -⟩ := List.getElem?_eq_some_iff.mp present
  simp [Waits, put, inside]

theorem waits_put_of_ne {party other : Nat} (different : other ≠ party) (scene : Scene)
    (waiter found : Waiter) :
    (scene.put party waiter).Waits other found ↔ scene.Waits other found := by
  unfold Waits put
  rw [List.getElem?_set_ne fun equal => different equal.symm]

theorem waits_append_iff (scene : Scene) (party : Nat) (waiter : Waiter) :
    { scene with parties := scene.parties ++ [.handle] : Scene }.Waits party waiter ↔
      scene.Waits party waiter := by
  unfold Waits
  rw [List.getElem?_append]
  split
  · rfl
  · next outside =>
      rw [List.getElem?_eq_none (Nat.le_of_not_lt outside)]
      cases party - scene.parties.length <;> simp

theorem Waits.unique {scene : Scene} {party : Nat} {waiter other : Waiter}
    (waits : scene.Waits party waiter) (likewise : scene.Waits party other) : waiter = other := by
  cases waits.symm.trans likewise
  rfl

end Scene

/-- One thing that happens. The trigger has one owner, so nothing is signalled once it is dropped. -/
inductive Happens : Scene → Happening → Scene → Prop where
  | signalled {scene : Scene} {event : Event} :
      scene.signal.triggerDropped = false →
      Happens scene (.signalled event) { scene with signal := scene.signal.handle event }
  | asked {scene : Scene} {party : Nat} :
      scene.Holds party →
      Happens scene (.asked party scene.signal.isShuttingDown) scene
  | cloned {scene : Scene} {party : Nat} :
      scene.Holds party →
      Happens scene (.cloned party) { scene with parties := scene.parties ++ [.handle] }
  | waited {scene : Scene} {party : Nat} :
      scene.Holds party →
      Happens scene (.waited party) (scene.put party .looking)
  | stepped {scene : Scene} {party : Nat} {waiter : Waiter} :
      scene.Waits party waiter →
      Happens scene (.stepped party) (scene.put party (waiter.step scene.signal))

inductive Follows : Scene → List Happening → Scene → Prop where
  | nil (scene : Scene) : Follows scene [] scene
  | cons {first next last : Scene} {happening : Happening} {rest : List Happening} :
      Happens first happening next → Follows next rest last →
      Follows first (happening :: rest) last

theorem Follows.append_inv {first last : Scene} {earlier later : List Happening}
    (follows : Follows first (earlier ++ later) last) :
    ∃ middle, Follows first earlier middle ∧ Follows middle later last := by
  induction earlier generalizing first with
  | nil => exact ⟨first, .nil first, follows⟩
  | cons happening earlier ih =>
      cases follows with
      | cons happens follows =>
          obtain ⟨middle, before, after⟩ := ih follows
          exact ⟨middle, .cons happens before, after⟩

/-! ## What a scene keeps of its past -/

/-- There is nothing left to wait for. -/
def Over (past : List Happening) : Prop :=
  .signalled .trigger ∈ past ∨ .signalled .dropTrigger ∈ past

/-- A waiter that is asleep or released is so for a reason. -/
inductive Justified (signal : Shutdown) : Waiter → Prop where
  | looking : Justified signal .looking
  | asleep {seen : Nat} : seen ≤ signal.version →
      (seen = signal.version ↔ signal.triggered = false) → Justified signal (.asleep seen)
  | released : signal.releases = true → Justified signal .released

structure Sound (past : List Happening) (scene : Scene) : Prop where
  triggered : scene.signal.triggered = true ↔ .signalled .trigger ∈ past
  dropped : scene.signal.triggerDropped = true ↔ .signalled .dropTrigger ∈ past
  justified : ∀ party waiter, scene.Waits party waiter → Justified scene.signal waiter
  /-- Whoever has begun to wait does so until it is released. -/
  waits : ∀ party, .waited party ∈ past → ∃ waiter, scene.Waits party waiter

theorem Sound.over_iff {past : List Happening} {scene : Scene} (sound : Sound past scene) :
    Over past ↔ scene.signal.releases = true := by
  unfold Over releases
  rw [← sound.triggered, ← sound.dropped, Bool.or_eq_true]

theorem Justified.step {signal : Shutdown} {waiter : Waiter} (justified : Justified signal waiter) :
    Justified signal (waiter.step signal) := by
  cases justified with
  | looking =>
      by_cases triggered : signal.triggered = true
      · have stepped : Waiter.looking.step signal = .released := if_pos triggered
        rw [stepped]
        exact .released (by simp [releases, triggered])
      · have stepped : Waiter.looking.step signal = .asleep signal.version := if_neg triggered
        rw [stepped]
        exact .asleep (Nat.le_refl _) (by simpa using triggered)
  | @asleep seen bound current =>
      dsimp only [Waiter.step]
      split
      · exact .looking
      · split
        · next dropped => exact .released (by simp [releases, dropped])
        · exact .asleep bound current
  | released ended => exact .released ended

/-- The signal gets a version that no sleeper has seen when it is triggered. -/
theorem Justified.handle {signal : Shutdown} {waiter : Waiter} (justified : Justified signal waiter)
    (held : signal.triggerDropped = false) (event : Event) :
    Justified (signal.handle event) waiter := by
  cases justified with
  | looking => exact .looking
  | @asleep seen bound current =>
      cases event with
      | dropTrigger => exact .asleep bound current
      | trigger =>
          have handled : signal.handle .trigger =
              { signal with triggered := true, version := signal.version + 1 } := by
            simp [Shutdown.handle, trigger, held]
          rw [handled]
          exact .asleep (Nat.le_succ_of_le bound) (by simp; omega)
  | released ended =>
      refine .released ?_
      cases event <;> simp_all [Shutdown.handle, trigger, dropTrigger, releases]

theorem Justified.releases_of_released {signal : Shutdown} (justified : Justified signal .released) :
    signal.releases = true := by
  cases justified with
  | released ended => exact ended

theorem triggered_handle_iff {signal : Shutdown} (held : signal.triggerDropped = false)
    (event : Event) :
    (signal.handle event).triggered = true ↔ signal.triggered = true ∨ event = .trigger := by
  cases event <;> simp [Shutdown.handle, trigger, dropTrigger, held]

theorem triggerDropped_handle_iff (signal : Shutdown) (event : Event) :
    (signal.handle event).triggerDropped = true ↔
      signal.triggerDropped = true ∨ event = .dropTrigger := by
  cases event with
  | dropTrigger => simp [Shutdown.handle, dropTrigger]
  | trigger => cases dropped : signal.triggerDropped <;> simp [Shutdown.handle, trigger, dropped]

theorem sound_start : Sound [] {} where
  triggered := by simp
  dropped := by simp
  justified := by
    intro party waiter waits
    cases party <;> simp [Scene.Waits] at waits
  waits := by simp

theorem Sound.quiet {past : List Happening} {scene after : Scene} (sound : Sound past scene)
    {happening : Happening} (silent : ∀ event, happening ≠ .signalled event)
    (unbegun : ∀ party, happening ≠ .waited party) (same : after.signal = scene.signal)
    (waits : ∀ party waiter, after.Waits party waiter ↔ scene.Waits party waiter) :
    Sound (past ++ [happening]) after where
  triggered := by simp [same, sound.triggered, (silent _).symm]
  dropped := by simp [same, sound.dropped, (silent _).symm]
  justified := by simpa [same, waits] using sound.justified
  waits := by simpa [waits, (unbegun _).symm] using sound.waits

theorem Sound.put {past : List Happening} {scene : Scene} (sound : Sound past scene)
    {party : Nat} {old : Party} (present : scene.parties[party]? = some old) {waiter : Waiter}
    (justified : Justified scene.signal waiter) {happening : Happening}
    (silent : ∀ event, happening ≠ .signalled event)
    (begun : ∀ other, happening = .waited other → other = party) :
    Sound (past ++ [happening]) (scene.put party waiter) where
  triggered := by simpa [Scene.put, (silent _).symm] using sound.triggered
  dropped := by simpa [Scene.put, (silent _).symm] using sound.dropped
  justified := by
    intro other found waits
    by_cases same : other = party
    · subst same
      exact (Scene.waits_put_self present waiter).unique waits ▸ justified
    · exact sound.justified other found ((Scene.waits_put_of_ne same _ _ _).mp waits)
  waits := by
    intro other member
    by_cases same : other = party
    · subst same
      exact ⟨waiter, Scene.waits_put_self present waiter⟩
    · have before : .waited other ∈ past := by
        rcases List.mem_append.mp member with before | now
        · exact before
        · exact absurd (begun other (List.mem_singleton.mp now).symm) same
      obtain ⟨found, waits⟩ := sound.waits other before
      exact ⟨found, (Scene.waits_put_of_ne same _ _ _).mpr waits⟩

theorem Sound.happens {past : List Happening} {scene after : Scene} {happening : Happening}
    (sound : Sound past scene) (happens : Happens scene happening after) :
    Sound (past ++ [happening]) after := by
  cases happens with
  | @signalled event held =>
      refine ⟨?_, ?_, ?_, ?_⟩
      · simp [triggered_handle_iff held, sound.triggered, @eq_comm _ event]
      · simp [triggerDropped_handle_iff, sound.dropped, @eq_comm _ event]
      · exact fun party waiter waits => (sound.justified party waiter waits).handle held event
      · simpa [Scene.Waits] using sound.waits
  | asked _ => exact sound.quiet (by simp) (by simp) rfl fun _ _ => Iff.rfl
  | cloned _ => exact sound.quiet (by simp) (by simp) rfl scene.waits_append_iff
  | waited held => exact sound.put held .looking (by simp) (by simp [eq_comm])
  | @stepped party waiter waits =>
      exact sound.put waits (sound.justified party waiter waits).step (by simp) (by simp)

theorem Sound.follows {past rest : List Happening} {first last : Scene} (sound : Sound past first)
    (follows : Follows first rest last) : Sound (past ++ rest) last := by
  induction follows generalizing past with
  | nil => simpa using sound
  | cons happens _ ih => simpa using ih (sound.happens happens)

/-! ## The steps to the end -/

/-- How many steps a waiter still needs once there is nothing left to wait for. -/
def remaining (signal : Shutdown) : Waiter → Nat
  | .looking => if signal.triggered then 1 else 2
  | .asleep _ => if signal.triggered then 2 else 1
  | .released => 0

theorem remaining_le_two (signal : Shutdown) (waiter : Waiter) : remaining signal waiter ≤ 2 := by
  cases waiter with
  | released => exact Nat.zero_le 2
  | looking | asleep => cases triggered : signal.triggered <;> simp [remaining, triggered]

theorem remaining_eq_zero_iff (signal : Shutdown) (waiter : Waiter) :
    remaining signal waiter = 0 ↔ waiter = .released := by
  cases waiter with
  | released => simp [remaining]
  | looking => cases triggered : signal.triggered <;> simp [remaining, triggered]
  | asleep seen => cases triggered : signal.triggered <;> simp [remaining, triggered]

/-- No step is lost. A sleeper has not seen the version of a signal that was triggered, and one that
was not triggered has no other version than the one it has seen. -/
theorem Justified.remaining_step {signal : Shutdown} {waiter : Waiter}
    (justified : Justified signal waiter) (ended : signal.releases = true) :
    remaining signal (waiter.step signal) = remaining signal waiter - 1 := by
  have dropped : signal.triggered = false → signal.triggerDropped = true := by
    intro untriggered
    simpa [releases, untriggered] using ended
  cases justified with
  | released => rfl
  | looking =>
      cases triggered : signal.triggered <;>
        simp [Waiter.step, isShuttingDown, remaining, triggered]
  | @asleep seen bound current =>
      cases triggered : signal.triggered with
      | true =>
          have unseen : signal.version ≠ seen := by
            intro same
            simp [current.mp same.symm] at triggered
          simp [Waiter.step, remaining, unseen, triggered]
      | false =>
          have seen := current.mpr triggered
          simp [Waiter.step, remaining, seen, triggered, dropped triggered]

theorem Justified.settle_eq_released_iff {signal : Shutdown} {waiter : Waiter}
    (justified : Justified signal waiter) :
    waiter.settle signal = .released ↔ signal.releases = true := by
  constructor
  · intro settled
    have rested : Justified signal (waiter.settle signal) := justified.step.step.step
    rw [settled] at rested
    exact rested.releases_of_released
  · intro ended
    rw [← remaining_eq_zero_iff signal]
    have bound := remaining_le_two signal waiter
    calc remaining signal (waiter.settle signal)
        = remaining signal waiter - 1 - 1 - 1 := by
          unfold Waiter.settle
          rw [justified.step.step.remaining_step ended, justified.step.remaining_step ended,
            justified.remaining_step ended]
      _ = 0 := by omega

/-- What happens brings a waiter nearer to its end just if it is a step of its own. -/
theorem Sound.nearer {past : List Happening} {scene after : Scene} {happening : Happening}
    (sound : Sound past scene) (happens : Happens scene happening after)
    (ended : scene.signal.releases = true) {party : Nat} {waiter : Waiter}
    (waits : scene.Waits party waiter) :
    after.signal.releases = true ∧ ∃ later, after.Waits party later ∧
      remaining after.signal later =
        remaining scene.signal waiter - if happening = .stepped party then 1 else 0 := by
  have untouched : ∀ {other : Nat} {old : Party}, scene.parties[other]? = some old →
      other ≠ party → ∀ next, (scene.put other next).Waits party waiter := fun _ different next =>
    (Scene.waits_put_of_ne different.symm scene next waiter).mpr waits
  cases happens with
  | @signalled event held =>
      -- the trigger is still there, so the wait can only be over because it was used
      have triggered : scene.signal.triggered = true := by simpa [releases, held] using ended
      have still := (triggered_handle_iff held event).mpr (.inl triggered)
      refine ⟨by simp [releases, still], waiter, waits, ?_⟩
      cases waiter <;> simp [remaining, triggered, still]
  | asked _ => exact ⟨ended, waiter, waits, by simp⟩
  | cloned _ => exact ⟨ended, waiter, (scene.waits_append_iff party waiter).mpr waits, by simp⟩
  | @waited other held =>
      have different : other ≠ party := by
        rintro rfl
        cases held.symm.trans waits
      exact ⟨ended, waiter, untouched held different .looking, by simp [Scene.put]⟩
  | @stepped other found stepping =>
      by_cases same : other = party
      · subst same
        cases waits.unique stepping
        refine ⟨ended, _, Scene.waits_put_self waits _, ?_⟩
        rw [if_pos rfl]
        exact (sound.justified _ _ waits).remaining_step ended
      · exact ⟨ended, waiter, untouched stepping same _, by simp [Scene.put, same]⟩

theorem Sound.released_of_steps {past rest : List Happening} {first last : Scene}
    (sound : Sound past first) (follows : Follows first rest last)
    (ended : first.signal.releases = true) {party : Nat} {waiter : Waiter}
    (waits : first.Waits party waiter)
    (enough : remaining first.signal waiter ≤ rest.count (.stepped party)) :
    last.Waits party .released := by
  induction follows generalizing past waiter with
  | nil =>
      have released := (remaining_eq_zero_iff _ _).mp (Nat.le_zero.mp enough)
      exact released ▸ waits
  | @cons _ _ _ happening rest happens _ ih =>
      -- a step of the party takes one off what remains, and nothing else puts anything on it
      obtain ⟨ended, later, waits, nearer⟩ := sound.nearer happens ended waits
      refine ih (sound.happens happens) ended waits ?_
      rw [List.count_cons] at enough
      rw [nearer]
      by_cases own : happening = .stepped party
      · simp only [own, beq_self_eq_true, if_true] at enough ⊢
        omega
      · simp only [beq_iff_eq, own, if_false] at enough ⊢
        omega

/-! ## What parties can rely on -/

/-- What holds of everybody in a scene, after all that has happened. -/
structure Reliable (history : List Happening) (scene : Scene) : Prop where
  /-- Every handle tells of the first trigger, from then on and for ever. -/
  answers : ∀ before party answer after, history = before ++ .asked party answer :: after →
    (answer = true ↔ .signalled .trigger ∈ before)
  shuttingDown : scene.signal.isShuttingDown = true ↔ .signalled .trigger ∈ history
  /-- Nobody is released as long as there is something to wait for. -/
  released : ∀ party, scene.Waits party .released → Over history
  /-- Left to itself, whoever waits comes to an end just if there is nothing to wait for. -/
  ends : ∀ party, .waited party ∈ history → ∃ waiter, scene.Waits party waiter ∧
    (waiter.settle scene.signal = .released ↔ Over history)
  /-- It takes two steps of its own from then on, whatever else happens meanwhile. -/
  prompt : ∀ before after party, history = before ++ after → Over before →
    .waited party ∈ before → 2 ≤ after.count (.stepped party) → scene.Waits party .released

/-- However triggers, clones, waiters and their steps follow each other: no handle misses the signal
and no waiter misses its end, and neither is ever early. -/
theorem waiting_is_reliable {history : List Happening} {scene : Scene}
    (follows : Follows {} history scene) : Reliable history scene := by
  have sound := sound_start.follows follows
  rw [List.nil_append] at sound
  refine ⟨?_, sound.triggered, ?_, ?_, ?_⟩
  · rintro before party answer after rfl
    obtain ⟨middle, earlier, later⟩ := follows.append_inv
    cases later with
    | cons happens _ =>
        cases happens with
        | asked _ => exact (sound_start.follows earlier).triggered
  · intro party waits
    exact sound.over_iff.mpr (sound.justified party _ waits).releases_of_released
  · intro party member
    obtain ⟨waiter, waits⟩ := sound.waits party member
    exact ⟨waiter, waits,
      (sound.justified party waiter waits).settle_eq_released_iff.trans sound.over_iff.symm⟩
  · rintro before after party rfl ended member enough
    obtain ⟨middle, earlier, later⟩ := follows.append_inv
    have reached := sound_start.follows earlier
    obtain ⟨waiter, waits⟩ := reached.waits party member
    exact reached.released_of_steps later (reached.over_iff.mp ended) waits
      (Nat.le_trans (remaining_le_two _ _) enough)

/-- Two clones wait, and the trigger is used when one of them is asleep and the other one has not
looked yet. -/
def sampleHistory : List Happening :=
  [.asked 0 false, .cloned 0, .waited 1, .stepped 1, .cloned 0, .waited 2, .signalled .trigger,
    .stepped 2, .stepped 1, .signalled .dropTrigger, .stepped 1, .stepped 2, .asked 0 true]

def sampleScene : Scene where
  signal := { triggered := true, triggerDropped := true, version := 1 }
  parties := [.handle, .waiter .released, .waiter .released]

theorem follows_sampleHistory : Follows {} sampleHistory sampleScene :=
  .cons (.asked rfl) <| .cons (.cloned rfl) <| .cons (.waited rfl) <| .cons (.stepped rfl) <|
  .cons (.cloned rfl) <| .cons (.waited rfl) <| .cons (.signalled rfl) <| .cons (.stepped rfl) <|
  .cons (.stepped rfl) <| .cons (.signalled rfl) <| .cons (.stepped rfl) <| .cons (.stepped rfl) <|
  .cons (.asked rfl) <| .nil sampleScene

theorem waiting_is_reliable_sample :
    Follows {} sampleHistory sampleScene ∧ Reliable sampleHistory sampleScene ∧
      sampleScene.Waits 1 .released := by
  have reliable := waiting_is_reliable follows_sampleHistory
  have prompt := reliable.prompt (sampleHistory.take 7) (sampleHistory.drop 7) 1 (by decide)
    (.inl (by decide)) (by decide) (by decide)
  exact ⟨follows_sampleHistory, reliable, prompt⟩

end Shutdown

end Registrar
