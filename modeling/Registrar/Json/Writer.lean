import Registrar.Json.Basic
import Registrar.Text.Quoted
/-!
# Writing JSON texts

Values are written without blanks. A floating-point number has the fewest digits that read back
as the same number; it is written out if its leading digit stands between the sixth place after
the point and the sixteenth before it, and with an exponent otherwise.
-/

set_option autoImplicit false

namespace Registrar.Json

open Decimal (Notation)

/-- Numbers whose leading exponent lies between −5 and 15 are written out; a positive exponent
carries its sign, and what is not a finite number has no form of its own. -/
def numberNotation : Notation where
  lowestPlain := some (-5)
  highestPlain := some 15
  plus := "+"
  positiveInfinity := "null"
  negativeInfinity := "null"
  notANumber := "null"

def escapedChar (c : Char) : List Char :=
  if c = '"' then ['\\', '"']
  else if c = '\\' then ['\\', '\\']
  else if c = '\n' then ['\\', 'n']
  else if c = '\r' then ['\\', 'r']
  else if c = '\t' then ['\\', 't']
  else if c = '\x08' then ['\\', 'b']
  else if c = '\x0c' then ['\\', 'f']
  else if c.toNat < 0x10 then ['\\', 'u', '0', '0', '0'] ++ Text.hexadecimal c.toNat
  else if c.toNat < 0x20 then ['\\', 'u', '0', '0'] ++ Text.hexadecimal c.toNat
  else [c]

def writeString (text : String) : String :=
  String.ofList ('"' :: (text.toList.flatMap escapedChar ++ ['"']))

mutual

def write : Json → String
  | null => "null"
  | bool true => "true"
  | bool false => "false"
  | integer value => toString value
  | real value => numberNotation.write value
  | string value => writeString value
  | array items => "[" ++ ",".intercalate (writeItems items) ++ "]"
  | object members => "\x7b" ++ ",".intercalate (writeMembers members) ++ "\x7d"

def writeItems : List Json → List String
  | [] => []
  | item :: rest => item.write :: writeItems rest

def writeMembers : List (String × Json) → List String
  | [] => []
  | (name, value) :: rest => (writeString name ++ ":" ++ value.write) :: writeMembers rest

end

end Registrar.Json
