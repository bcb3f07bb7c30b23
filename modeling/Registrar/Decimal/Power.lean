/-!
# Powers

The powers of the two bases in which numbers are written here.
-/

set_option autoImplicit false

namespace Registrar.Decimal

def twoTo (exponent : Nat) : Nat :=
  Nat.pow 2 exponent

def tenTo (exponent : Nat) : Nat :=
  Nat.pow 10 exponent

end Registrar.Decimal
