import Registrar.Decimal.Power
/-!
# Binary floating-point numbers of 64 bits

A finite number is `significand · 2 ^ exponent` with a sign; the significand has at most 53 bits
and the exponent is at least −1074. All arithmetic is exact arithmetic on natural numbers followed
by one rounding to the nearest representable number, ties to the even significand.
-/

set_option autoImplicit false

namespace Registrar.Decimal

inductive Binary64 where
  | finite (negative : Bool) (significand : Nat) (exponent : Int)
  | infinite (negative : Bool)
  | notANumber
deriving DecidableEq, Repr, Inhabited

/-- The exact value `numerator / denominator`; the denominator is meant to be positive. -/
structure Ratio where
  numerator : Nat
  denominator : Nat
deriving DecidableEq, Repr

def Ratio.scaleTwo (ratio : Ratio) (power : Int) : Ratio :=
  if 0 ≤ power then ⟨ratio.numerator * twoTo power.toNat, ratio.denominator⟩
  else ⟨ratio.numerator, ratio.denominator * twoTo (-power).toNat⟩

def Ratio.scaleTen (ratio : Ratio) (power : Int) : Ratio :=
  if 0 ≤ power then ⟨ratio.numerator * tenTo power.toNat, ratio.denominator⟩
  else ⟨ratio.numerator, ratio.denominator * tenTo (-power).toNat⟩

def Ratio.le (left right : Ratio) : Bool :=
  left.numerator * right.denominator ≤ right.numerator * left.denominator

/-- The nearest natural number; a tie goes to the even one. -/
def Ratio.nearest (ratio : Ratio) : Nat :=
  let quotient := ratio.numerator / ratio.denominator
  let twice := 2 * (ratio.numerator % ratio.denominator)
  if twice < ratio.denominator then quotient
  else if ratio.denominator < twice then quotient + 1
  else if quotient % 2 = 0 then quotient
  else quotient + 1

namespace Binary64

def zero : Binary64 :=
  finite false 0 (-1074)

def ofRatio (negative : Bool) (ratio : Ratio) : Binary64 :=
  if ratio.numerator = 0 then finite negative 0 (-1074)
  else
    let width : Int := (Nat.log2 ratio.numerator : Int) - (Nat.log2 ratio.denominator : Int)
    let guess : Int := max (-1074) (width - 53)
    let trial := ratio.scaleTwo (-guess)
    let exponent := if twoTo 53 ≤ trial.numerator / trial.denominator then guess + 1 else guess
    let rounded := (ratio.scaleTwo (-exponent)).nearest
    let carried := rounded = twoTo 53
    let significand := if carried then twoTo 52 else rounded
    let exponent := if carried then exponent + 1 else exponent
    if 971 < exponent then infinite negative else finite negative significand exponent

/-- The number nearest to `digits · 10 ^ exponent`. Exponents beyond the reach of the format are
cut short, because they decide the answer alone. -/
def ofDecimal (negative : Bool) (digits : Nat) (exponent : Int) : Binary64 :=
  if digits = 0 then finite negative 0 (-1074)
  else
    let magnitude : Int := (Nat.toDigits 10 digits).length + exponent
    if 400 < magnitude then infinite negative
    else if magnitude < -400 then finite negative 0 (-1074)
    else ofRatio negative ((⟨digits, 1⟩ : Ratio).scaleTen exponent)

def ofInt (value : Int) : Binary64 :=
  ofDecimal (value < 0) value.natAbs 0

def magnitude (significand : Nat) (exponent : Int) : Ratio :=
  (⟨significand, 1⟩ : Ratio).scaleTwo exponent

/-- The exact value over the denominator `2 ^ 1074`. -/
private def scaledValue (negative : Bool) (significand : Nat) (exponent : Int) : Int :=
  let magnitude : Int := significand * twoTo (exponent + 1074).toNat
  if negative then -magnitude else magnitude

/-- Addition with one rounding. The sum of two zeros is negative only if both are. -/
def add : Binary64 → Binary64 → Binary64
  | notANumber, _ => notANumber
  | _, notANumber => notANumber
  | infinite left, infinite right => if left = right then infinite left else notANumber
  | infinite sign, finite _ _ _ => infinite sign
  | finite _ _ _, infinite sign => infinite sign
  | finite leftSign leftSignificand leftExponent,
      finite rightSign rightSignificand rightExponent =>
      let sum := scaledValue leftSign leftSignificand leftExponent +
        scaledValue rightSign rightSignificand rightExponent
      if sum = 0 then
        finite (leftSign && rightSign && leftSignificand = 0 && rightSignificand = 0) 0 (-1074)
      else ofRatio (sum < 0) ⟨sum.natAbs, twoTo 1074⟩

/-- The order of numbers; it holds for no pair with a member that is not a number. -/
def le : Binary64 → Binary64 → Bool
  | notANumber, _ => false
  | _, notANumber => false
  | infinite true, _ => true
  | _, infinite false => true
  | infinite false, _ => false
  | _, infinite true => false
  | finite leftSign leftSignificand leftExponent,
      finite rightSign rightSignificand rightExponent =>
      scaledValue leftSign leftSignificand leftExponent ≤
        scaledValue rightSign rightSignificand rightExponent

end Binary64

end Registrar.Decimal
