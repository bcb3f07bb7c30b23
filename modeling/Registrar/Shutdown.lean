/-!
# The shutdown signal

One side triggers the signal, any number of handles observe it. A handle is shutting down from the
first trigger on. Whoever waits is released by a trigger, and also when the triggering side goes
away without one, because then no trigger can come any more.

A waiter looks at the signal and, if there is nothing to see yet, goes to sleep. It keeps the version
of the signal that it has seen, so a trigger that comes between the look and the sleep is not lost:
a sleeper wakes up whenever the signal has another version than the one it has seen.
-/

set_option autoImplicit false

namespace Registrar

/-- The state that all handles of one signal share. -/
structure Shutdown where
  triggered : Bool := false
  triggerDropped : Bool := false
  version : Nat := 0
deriving DecidableEq, Repr, Inhabited

namespace Shutdown

inductive Event where
  | trigger
  | dropTrigger
deriving DecidableEq, Repr

/-- Trigger the signal; once the triggering side is gone this does nothing. -/
def trigger (signal : Shutdown) : Shutdown :=
  if signal.triggerDropped then signal
  else { signal with triggered := true, version := signal.version + 1 }

def dropTrigger (signal : Shutdown) : Shutdown :=
  { signal with triggerDropped := true }

def handle (signal : Shutdown) : Event → Shutdown
  | .trigger => signal.trigger
  | .dropTrigger => signal.dropTrigger

def isShuttingDown (signal : Shutdown) : Bool :=
  signal.triggered

def releases (signal : Shutdown) : Bool :=
  signal.triggered || signal.triggerDropped

end Shutdown

/-- How far somebody who waits for the signal has come. -/
inductive Waiter where
  | looking
  /-- It sleeps, having seen nothing in a version of the signal. -/
  | asleep (seen : Nat)
  | released
deriving DecidableEq, Repr

namespace Waiter

/-- One step of a waiter. A sleeper stays asleep as long as the signal has the version it has seen
and can still get another one. -/
def step (signal : Shutdown) : Waiter → Waiter
  | looking => if signal.isShuttingDown then released else asleep signal.version
  | asleep seen =>
      if signal.version ≠ seen then looking
      else if signal.triggerDropped then released
      else asleep seen
  | released => released

def settle (signal : Shutdown) (waiter : Waiter) : Waiter :=
  ((waiter.step signal).step signal).step signal

/-- A waiter that has come to rest stays there. -/
theorem step_settle (signal : Shutdown) (waiter : Waiter) :
    (waiter.settle signal).step signal = waiter.settle signal := by
  cases waiter <;> grind [settle, step]

/-- Whoever starts to wait is released at once exactly if there is nothing left to wait for. -/
theorem settle_looking_eq_released_iff (signal : Shutdown) :
    looking.settle signal = released ↔ signal.releases = true := by
  grind [settle, step, Shutdown.releases, Shutdown.isShuttingDown]

end Waiter

end Registrar
