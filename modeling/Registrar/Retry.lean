/-!
# Delays between retries

A delay doubles with every attempt until it reaches its cap. The exponent stops growing at ten and
all products stop at the largest 64-bit number, so a long streak of failures cannot wrap around.
-/

set_option autoImplicit false

namespace Registrar.Retry

def largest : Nat :=
  UInt64.size - 1

def saturatingMul (left right : UInt64) : UInt64 :=
  UInt64.ofNat (min (left.toNat * right.toNat) largest)

def saturatingPow (base : UInt64) (exponent : Nat) : UInt64 :=
  UInt64.ofNat (min (Nat.pow base.toNat exponent) largest)

def defaultBase : UInt64 :=
  15

def defaultCap : UInt64 :=
  300

/-- The delay in seconds before the next attempt: `base · 2 ^ attempt`, at most `cap`. -/
def delay (attempt : UInt32) (base cap : Option UInt64) : UInt64 :=
  let base := base.getD defaultBase
  let cap := cap.getD defaultCap
  min (saturatingMul base (saturatingPow 2 (min attempt 10).toNat)) cap

end Registrar.Retry
