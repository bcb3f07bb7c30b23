import Registrar.Decimal.Binary64
/-!
# The shortest decimal of a floating-point number

Of all decimals that round to a given number, the shortest one is written: it has the fewest
digits, and among those of equal length it lies nearest to the number. The search compares exact
ratios, so no rounding error can enter.
-/

set_option autoImplicit false

namespace Registrar.Decimal

/-- A decimal `digits · 10 ^ exponent`. -/
structure Numeral where
  digits : Nat
  exponent : Int
deriving DecidableEq, Repr

def Numeral.ratio (numeral : Numeral) : Ratio :=
  (⟨numeral.digits, 1⟩ : Ratio).scaleTen numeral.exponent

def Numeral.width (numeral : Numeral) : Nat :=
  (Nat.toDigits 10 numeral.digits).length

/-- The same decimal without zeros at its end. The fuel is the number of digits. -/
private def stripZeros : Nat → Nat → Int → Numeral
  | 0, digits, exponent => ⟨digits, exponent⟩
  | fuel + 1, digits, exponent =>
      if digits ≠ 0 ∧ digits % 10 = 0 then stripZeros fuel (digits / 10) (exponent + 1)
      else ⟨digits, exponent⟩

def Numeral.strip (numeral : Numeral) : Numeral :=
  stripZeros numeral.width numeral.digits numeral.exponent

namespace Binary64

/-- The decimals that round to a positive number lie between two ratios; the ends belong to them
iff the significand is even. -/
structure Basin where
  low : Ratio
  high : Ratio
  closed : Bool

/-- The ratios that round to `significand · 2 ^ exponent`. Below a power of two the spacing of
numbers halves, so the lower end lies closer there. -/
def basin (significand : Nat) (exponent : Int) : Basin :=
  let atPower := significand = twoTo 52 ∧ -1074 < exponent
  let lower := if atPower then 4 * significand - 1 else 4 * significand - 2
  ⟨magnitude lower (exponent - 2), magnitude (4 * significand + 2) (exponent - 2),
    significand % 2 = 0⟩

def Basin.holds (basin : Basin) (ratio : Ratio) : Bool :=
  if basin.closed then basin.low.le ratio && ratio.le basin.high
  else !ratio.le basin.low && !basin.high.le ratio

private def distance (left right : Ratio) : Nat :=
  ((left.numerator * right.denominator : Int) - (right.numerator * left.denominator : Int)).natAbs

private def pick (basin : Basin) (value : Ratio) (below above : Numeral) : Option Numeral :=
  match basin.holds below.ratio, basin.holds above.ratio with
  | true, true =>
      -- Both distances are compared over the denominators of both decimals.
      let toBelow := distance value below.ratio * above.ratio.denominator
      let toAbove := distance value above.ratio * below.ratio.denominator
      if toBelow < toAbove then some below
      else if toAbove < toBelow then some above
      else if below.digits % 2 = 0 then some below else some above
  | true, false => some below
  | false, true => some above
  | false, false => none

/-- Try the grids from the given count of digits on, at most `fuel` of them. -/
private def search (basin : Basin) (value : Ratio) (top : Int) : Nat → Nat → Option Numeral
  | 0, _ => none
  | fuel + 1, count =>
      let exponent := top - count + 1
      let scaled := value.scaleTen (-exponent)
      let floor := scaled.numerator / scaled.denominator
      match pick basin value ⟨floor, exponent⟩ ⟨floor + 1, exponent⟩ with
      | some numeral => some numeral
      | none => search basin value top fuel (count + 1)

/-- The exponent of the leading decimal digit of a positive ratio, from an estimate that is at
most one too low. -/
private def leadingExponent (value : Ratio) : Int :=
  let bits : Int := (Nat.log2 value.numerator : Int) - (Nat.log2 value.denominator : Int)
  let guess : Int := (bits - 1) * 30103 / 100000 - 1
  let tenUp (power : Int) := (⟨1, 1⟩ : Ratio).scaleTen power
  if (tenUp (guess + 2)).le value then guess + 2
  else if (tenUp (guess + 1)).le value then guess + 1
  else guess

/-- The shortest decimal of the finite number `significand · 2 ^ exponent`. -/
def shortest (significand : Nat) (exponent : Int) : Numeral :=
  if significand = 0 then ⟨0, 0⟩
  else
    let value := magnitude significand exponent
    match search (basin significand exponent) value (leadingExponent value) 18 1 with
    | some numeral => numeral.strip
    | none => ⟨significand, 0⟩

end Binary64

end Registrar.Decimal
