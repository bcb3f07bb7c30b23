import Registrar.Decimal.Notation
import Registrar.Yaml.Node
/-!
# What plain scalars mean

A plain scalar can stand for nothing, a truth value, an integer or a floating-point number; any
other one is a text. Integers are decimal, or have a base named in front; a decimal with a leading
zero is a text.
-/

set_option autoImplicit false

namespace Registrar.Yaml

open Decimal (Binary64 Notation twoTo)

def isNullName (text : String) : Bool :=
  ["null", "Null", "NULL", "~"].contains text

def boolNamed? (text : String) : Option Bool :=
  if ["true", "True", "TRUE"].contains text then some true
  else if ["false", "False", "FALSE"].contains text then some false
  else none

def digitValue? (base : Nat) (c : Char) : Option Nat :=
  (hexValue? c).filter (· < base)

def digitsValue? (base : Nat) (digits : List Char) : Option Nat :=
  match digits with
  | [] => none
  | _ =>
      digits.foldlM (fun value digit => (digitValue? base digit).map (base * value + ·)) 0

def hasLeadingZero (text : List Char) : Bool :=
  let digits :=
    match text with
    | '-' :: rest => rest
    | '+' :: rest => rest
    | rest => rest
  match digits with
  | '0' :: rest => !rest.isEmpty && rest.all Char.isDigit
  | _ => false

def integerOf? (text : List Char) : Option Int :=
  let negative := text.head? = some '-'
  let body :=
    match text with
    | '-' :: rest => rest
    | '+' :: rest => rest
    | rest => rest
  let magnitude :=
    match body with
    | '0' :: 'x' :: digits => digitsValue? 16 digits
    | '0' :: 'o' :: digits => digitsValue? 8 digits
    | '0' :: 'b' :: digits => digitsValue? 2 digits
    | digits => if hasLeadingZero text then none else digitsValue? 10 digits
  magnitude.map fun magnitude => if negative then -(magnitude : Int) else magnitude

/-- The digits of a floating-point number and its exponent: digits around an optional point, and an
optional exponent. -/
def realParts? (text : List Char) : Option (List Char × Int) := do
  let whole := text.takeWhile Char.isDigit
  let rest := text.dropWhile Char.isDigit
  let (fraction, rest) :=
    match rest with
    | '.' :: rest => (rest.takeWhile Char.isDigit, rest.dropWhile Char.isDigit)
    | rest => ([], rest)
  let digits := whole ++ fraction
  if digits.isEmpty then none
  else
    let exponent ←
      match rest with
      | [] => some 0
      | c :: rest =>
          if c = 'e' || c = 'E' then
            let (negative, rest) :=
              match rest with
              | '-' :: rest => (true, rest)
              | '+' :: rest => (false, rest)
              | rest => (false, rest)
            (digitsValue? 10 rest).map fun value => if negative then -(value : Int) else value
          else none
    some (digits, exponent - fraction.length)

/-- The floating-point number that a text stands for. One that is too large to be finite is no
number. -/
def realOf? (text : List Char) : Option Binary64 :=
  let (negative, body) :=
    match text with
    | '-' :: rest => (true, rest)
    | '+' :: rest => (false, rest)
    | rest => (false, rest)
  if [".inf", ".Inf", ".INF"].contains (String.ofList body) then some (.infinite negative)
  else if [".nan", ".NaN", ".NAN"].contains (String.ofList text) then some .notANumber
  else
    match realParts? body with
    | none => none
    | some (digits, exponent) =>
        match Binary64.ofDecimal negative ((digitsValue? 10 digits).getD 0) exponent with
        | .infinite _ => none
        | value => some value

def numberNotation : Notation where
  lowestPlain := none
  highestPlain := none
  plus := ""
  positiveInfinity := "inf"
  negativeInfinity := "-inf"
  notANumber := "NaN"

/-- What an integer of any size is called when it does not fit; beyond 128 bits it is none. -/
def integerFound? (value : Int) : Option Found :=
  if -(twoTo 63 : Int) ≤ value ∧ value < twoTo 64 then some (.integer value)
  else if -(twoTo 127 : Int) ≤ value ∧ value < twoTo 128 then some (.wideInteger value)
  else none

def plainFound (text : String) : Found :=
  if text = "" || isNullName text then .unit
  else
    match boolNamed? text, (integerOf? text.toList).bind integerFound? with
    | some value, _ => .bool value
    | none, some found => found
    | none, none =>
        if hasLeadingZero text.toList then .string text
        else
          match realOf? text.toList with
          | some value => .real (numberNotation.write value)
          | none => .string text

def boolTag : String := "tag:yaml.org,2002:bool"

def intTag : String := "tag:yaml.org,2002:int"

def floatTag : String := "tag:yaml.org,2002:float"

def nullTag : String := "tag:yaml.org,2002:null"

/-- How a scalar fails to be what is expected. A tag that it does not fit itself is reported
first. -/
def Scalar.mismatch (scalar : Scalar) (expected : String) : Mismatch :=
  let text := scalar.text
  let misfit (name : String) : Mismatch := .wrongValue (.string text) name
  let plain : Found := if scalar.style = .plain then plainFound text else .string text
  match scalar.tag with
  | none => .wrongType plain expected
  | some tag =>
      if tag = boolTag then
        match boolNamed? text with
        | some value => .wrongType (.bool value) expected
        | none => misfit "a boolean"
      else if tag = intTag then
        match (integerOf? text.toList).bind integerFound? with
        | some found => .wrongType found expected
        | none => misfit "an integer"
      else if tag = floatTag then
        match realOf? text.toList with
        | some value => .wrongType (.real (numberNotation.write value)) expected
        | none => misfit "a float"
      else if tag = nullTag then
        if isNullName text then .wrongType .unit expected else misfit "null"
      else if tag.startsWith "!" then .wrongType plain expected
      else .wrongType (.string text) expected

/-- Whether a scalar may be read as a value of the type with this tag: it is plain, or a literal
block that carries the tag. -/
def Scalar.mayBe (scalar : Scalar) (tag : String) : Bool :=
  scalar.style = .plain || (scalar.style = .literal && scalar.tag = some tag)

end Registrar.Yaml
