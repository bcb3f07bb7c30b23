import Registrar.Decimal.Power
/-!
# Numbers on the command line

A number is written in decimal digits, with a sign if need be. The digits are read from left to
right, and the first thing that goes wrong is reported.
-/

set_option autoImplicit false

namespace Registrar.CommandLine

inductive NumberProblem where
  | empty
  | invalidDigit
  | tooLarge
  | tooSmall
  | outside (value low high : Int)
deriving DecidableEq, Repr

def NumberProblem.message : NumberProblem → String
  | empty => "cannot parse integer from empty string"
  | invalidDigit => "invalid digit found in string"
  | tooLarge => "number too large to fit in target type"
  | tooSmall => "number too small to fit in target type"
  | outside value low high =>
      toString value ++ " is not in " ++ toString low ++ "..=" ++ toString high

/-- Read one more digit of a magnitude that must not exceed a limit. -/
def readDigit (limit : Nat) (beyond : NumberProblem) (value : Nat) (c : Char) :
    Except NumberProblem Nat :=
  if !c.isDigit then .error .invalidDigit
  else
    let next := 10 * value + (c.toNat - '0'.toNat)
    if limit < next then .error beyond else .ok next

def readMagnitude (limit : Nat) (beyond : NumberProblem) (digits : List Char) :
    Except NumberProblem Nat :=
  match digits with
  | [] => .error .invalidDigit
  | _ => digits.foldlM (readDigit limit beyond) 0

def readNatural (limit : Nat) (text : String) : Except NumberProblem Nat :=
  match text.toList with
  | [] => .error .empty
  | '+' :: digits => readMagnitude limit .tooLarge digits
  | digits => readMagnitude limit .tooLarge digits

def readInteger (text : String) : Except NumberProblem Int :=
  match text.toList with
  | [] => .error .empty
  | '-' :: digits => (readMagnitude (Decimal.twoTo 63) .tooSmall digits).map fun value => -(value : Int)
  | '+' :: digits => (readMagnitude (Decimal.twoTo 63 - 1) .tooLarge digits).map Int.ofNat
  | digits => (readMagnitude (Decimal.twoTo 63 - 1) .tooLarge digits).map Int.ofNat

def readBetween (low high : Int) (text : String) : Except NumberProblem Int := do
  let value ← readInteger text
  if low ≤ value ∧ value ≤ high then return value else .error (.outside value low high)

end Registrar.CommandLine
