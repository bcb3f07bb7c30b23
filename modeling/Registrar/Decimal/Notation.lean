import Registrar.Decimal.Shortest
/-!
# Notations for numbers

The digits of a number are found once; a notation then decides which exponents are written out,
how an exponent is marked, and what stands for an infinite number. A number without a fractional
part keeps `.0`, so that it is never mistaken for an integer.
-/

set_option autoImplicit false

namespace Registrar.Decimal

/-- How a floating-point number is written. The bounds speak of the exponent of the leading digit;
without a bound there is no limit on that side. -/
structure Notation where
  lowestPlain : Option Int
  highestPlain : Option Int
  /-- Written before a positive exponent. -/
  plus : String
  positiveInfinity : String
  negativeInfinity : String
  notANumber : String

/-- Whether the notation writes a number with this leading exponent without an exponent. -/
def Notation.isPlain (layout : Notation) (leading : Int) : Bool :=
  (match layout.lowestPlain with
    | some low => low ≤ leading
    | none => true) &&
  match layout.highestPlain with
  | some high => leading ≤ high
  | none => true

/-- A decimal written out, with at least one digit on each side of the point. -/
def Numeral.plain (numeral : Numeral) : List Char :=
  let digits := Nat.toDigits 10 numeral.digits
  if 0 ≤ numeral.exponent then
    digits ++ List.replicate numeral.exponent.toNat '0' ++ ['.', '0']
  else
    let places := (-numeral.exponent).toNat
    if places < digits.length then
      digits.take (digits.length - places) ++ '.' :: digits.drop (digits.length - places)
    else ['0', '.'] ++ List.replicate (places - digits.length) '0' ++ digits

/-- A decimal with one digit before the point and a marked exponent. -/
def Numeral.scientific (numeral : Numeral) (plus : String) : List Char :=
  let digits := Nat.toDigits 10 numeral.digits
  let leading : Int := numeral.exponent + digits.length - 1
  let mantissa :=
    match digits with
    | [] => []
    | [only] => [only]
    | first :: rest => first :: '.' :: rest
  let sign := if 0 ≤ leading then plus.toList else ['-']
  mantissa ++ 'e' :: sign ++ Nat.toDigits 10 leading.natAbs

def Notation.write (layout : Notation) : Binary64 → String
  | .notANumber => layout.notANumber
  | .infinite true => layout.negativeInfinity
  | .infinite false => layout.positiveInfinity
  | .finite negative significand exponent =>
      let numeral := Binary64.shortest significand exponent
      let leading : Int := numeral.exponent + numeral.width - 1
      let body :=
        if significand = 0 || layout.isPlain leading then numeral.plain
        else numeral.scientific layout.plus
      String.ofList (if negative then '-' :: body else body)

end Registrar.Decimal
