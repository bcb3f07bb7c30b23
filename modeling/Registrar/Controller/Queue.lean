import Registrar.Cache
/-!
# The queue of a controller

The queue holds when the object under a key is due for a cycle. A key is in it at most once, and of
several times the earliest counts, so a burst of changes asks for one cycle only.
-/

set_option autoImplicit false

namespace Registrar.Controller

abbrev Queue :=
  Entries ObjectKey Nat

namespace Queue

/-- Ask for a cycle at a time; an earlier request for the same key prevails. -/
def schedule (key : ObjectKey) (time : Nat) : Queue → Queue
  | [] => [(key, time)]
  | (other, due) :: rest =>
      if other = key then (other, min due time) :: rest
      else (other, due) :: schedule key time rest

/-- The keys that are due and not busy, in the order in which they came. -/
def dueKeys (queue : Queue) (busy : List ObjectKey) (now : Nat) : List ObjectKey :=
  (queue.filter fun entry => entry.2 ≤ now && !busy.contains entry.1).map Prod.fst

def nextTime? (queue : Queue) (busy : List ObjectKey) : Option Nat :=
  ((queue.filter fun entry => !busy.contains entry.1).map Prod.snd).min?

end Queue

end Registrar.Controller
