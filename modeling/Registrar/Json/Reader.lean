import Registrar.Json.Basic
/-!
# Reading JSON texts

`Json.parse` reads a whole text or says which rule the text breaks first. Values may be nested 127
deep. An integer outside the range of 64 bits, signed or not, is read as the nearest
floating-point number, and so is a negative zero.
-/

set_option autoImplicit false

namespace Registrar.Json

open Decimal (Binary64)

inductive SyntaxError where
  | endInValue
  | endInString
  | endInArray
  | endInObject
  | expectedValue
  | expectedWord
  | expectedColon
  | expectedArrayEnd
  | expectedObjectEnd
  | keyNotString
  | trailingComma
  | trailingCharacters
  | invalidNumber
  | numberOutOfRange
  | invalidEscape
  | loneSurrogate
  | endOfEscape
  | controlCharacter
  | nestedTooDeep
deriving DecidableEq, Repr

def SyntaxError.message : SyntaxError → String
  | endInValue => "EOF while parsing a value"
  | endInString => "EOF while parsing a string"
  | endInArray => "EOF while parsing a list"
  | endInObject => "EOF while parsing an object"
  | expectedValue => "expected value"
  | expectedWord => "expected ident"
  | expectedColon => "expected `:`"
  | expectedArrayEnd => "expected `,` or `]`"
  | expectedObjectEnd => "expected `,` or `\x7d`"
  | keyNotString => "key must be a string"
  | trailingComma => "trailing comma"
  | trailingCharacters => "trailing characters"
  | invalidNumber => "invalid number"
  | numberOutOfRange => "number out of range"
  | invalidEscape => "invalid escape"
  | loneSurrogate => "lone leading surrogate in hex escape"
  | endOfEscape => "unexpected end of hex escape"
  | controlCharacter =>
      "control character (\\u0000-\\u001F) found while parsing a string"
  | nestedTooDeep => "recursion limit exceeded"

/-- A reading either yields what was read, usually beside the rest of the text, or fails. -/
abbrev Reading := Except SyntaxError

def skipBlanks (text : List Char) : List Char :=
  text.dropWhile fun c => c = ' ' || c = '\n' || c = '\t' || c = '\r'

def digitsValue (digits : List Char) : Nat :=
  digits.foldl (fun value digit => 10 * value + (digit.toNat - '0'.toNat)) 0

/-- Read at least one digit; what follows in its place is an invalid number. -/
def readDigits (text : List Char) : Reading (List Char × List Char) :=
  match text with
  | [] => .error .endInValue
  | c :: _ =>
      if c.isDigit then .ok (text.takeWhile Char.isDigit, text.dropWhile Char.isDigit)
      else .error .invalidNumber

/-- Read the digits before the point: a zero stands alone. -/
def readWhole (text : List Char) : Reading (List Char × List Char) := do
  let (digits, rest) ← readDigits text
  match digits with
  | '0' :: _ :: _ => .error .invalidNumber
  | _ => .ok (digits, rest)

def readExponent (text : List Char) : Reading (Option Int × List Char) :=
  match text with
  | c :: rest =>
      if c = 'e' || c = 'E' then do
        let (negative, rest) :=
          match rest with
          | '+' :: rest => (false, rest)
          | '-' :: rest => (true, rest)
          | rest => (false, rest)
        let (digits, rest) ← readDigits rest
        let value : Int := digitsValue digits
        .ok (some (if negative then -value else value), rest)
      else .ok (none, text)
  | [] => .ok (none, [])

def finiteReal (negative : Bool) (digits : List Char) (exponent : Int) : Except SyntaxError Json :=
  match Binary64.ofDecimal negative (digitsValue digits) exponent with
  | .infinite _ => .error .numberOutOfRange
  | value => .ok (real value)

def readMagnitude (negative : Bool) (text : List Char) : Reading (Json × List Char) := do
  let (whole, rest) ← readWhole text
  let (fraction, rest) ←
    match rest with
    | '.' :: rest => (readDigits rest).map fun (digits, rest) => (some digits, rest)
    | rest => .ok (none, rest)
  let (exponent, rest) ← readExponent rest
  let value ←
    match fraction, exponent with
    | none, none =>
        let magnitude := digitsValue whole
        if negative then
          if 0 < magnitude && magnitude ≤ Decimal.twoTo 63 then .ok (integer (-magnitude))
          else finiteReal true whole 0
        else if magnitude < Decimal.twoTo 64 then .ok (integer magnitude)
        else finiteReal false whole 0
    | _, _ =>
        let places := fraction.getD []
        finiteReal negative (whole ++ places) (exponent.getD 0 - places.length)
  .ok (value, rest)

def hexDigit? (c : Char) : Option Nat :=
  if c.isDigit then some (c.toNat - '0'.toNat)
  else if 'a' ≤ c && c ≤ 'f' then some (c.toNat - 'a'.toNat + 10)
  else if 'A' ≤ c && c ≤ 'F' then some (c.toNat - 'A'.toNat + 10)
  else none

def readHex (text : List Char) : Reading (Nat × List Char) :=
  match text with
  | a :: b :: c :: d :: rest =>
      match hexDigit? a, hexDigit? b, hexDigit? c, hexDigit? d with
      | some a, some b, some c, some d => .ok (((a * 16 + b) * 16 + c) * 16 + d, rest)
      | _, _, _, _ => .error .invalidEscape
  | _ => .error .endInString

/-- Read a hexadecimal escape after its marker, joining a pair of surrogates. -/
def readUnicode (text : List Char) : Reading (Char × List Char) := do
  let (unit, rest) ← readHex text
  if 0xDC00 ≤ unit && unit ≤ 0xDFFF then .error .loneSurrogate
  else if 0xD800 ≤ unit && unit ≤ 0xDBFF then
    match rest with
    | '\\' :: 'u' :: rest =>
        let (second, rest) ← readHex rest
        if 0xDC00 ≤ second && second ≤ 0xDFFF then
          .ok (Char.ofNat (0x10000 + (unit - 0xD800) * 0x400 + (second - 0xDC00)), rest)
        else .error .loneSurrogate
    | [] => .error .endInString
    | _ => .error .endOfEscape
  else .ok (Char.ofNat unit, rest)

def readEscape (text : List Char) : Reading (Char × List Char) :=
  match text with
  | [] => .error .endInString
  | '"' :: rest => .ok ('"', rest)
  | '\\' :: rest => .ok ('\\', rest)
  | '/' :: rest => .ok ('/', rest)
  | 'b' :: rest => .ok ('\x08', rest)
  | 'f' :: rest => .ok ('\x0c', rest)
  | 'n' :: rest => .ok ('\n', rest)
  | 'r' :: rest => .ok ('\r', rest)
  | 't' :: rest => .ok ('\t', rest)
  | 'u' :: rest => readUnicode rest
  | _ => .error .invalidEscape

/-- Read the characters of a string up to its closing quote. The fuel bounds their number. -/
def readString : Nat → List Char → List Char → Reading (String × List Char)
  | 0, _, _ => .error .endInString
  | fuel + 1, read, text =>
      match text with
      | [] => .error .endInString
      | '"' :: rest => .ok (String.ofList read.reverse, rest)
      | '\\' :: rest => do
          let (c, rest) ← readEscape rest
          readString fuel (c :: read) rest
      | c :: rest =>
          if c.toNat < 0x20 then .error .controlCharacter
          else readString fuel (c :: read) rest

def readWord (word : List Char) (value : Json) (text : List Char) : Reading (Json × List Char) :=
  match word, text with
  | [], rest => .ok (value, rest)
  | _ :: _, [] => .error .endInValue
  | expected :: word, c :: rest =>
      if c = expected then readWord word value rest else .error .expectedWord

mutual

/-- Read a value. The fuel bounds the steps and `depth` the nesting that is still allowed. -/
def readValue : Nat → Nat → List Char → Reading (Json × List Char)
  | 0, _, _ => .error .nestedTooDeep
  | fuel + 1, depth, text =>
      match skipBlanks text with
      | [] => .error .endInValue
      | 'n' :: rest => readWord ['u', 'l', 'l'] null rest
      | 't' :: rest => readWord ['r', 'u', 'e'] (bool true) rest
      | 'f' :: rest => readWord ['a', 'l', 's', 'e'] (bool false) rest
      | '-' :: rest => readMagnitude true rest
      | '"' :: rest => do
          let (value, rest) ← readString (rest.length + 1) [] rest
          .ok (string value, rest)
      | '[' :: rest =>
          if depth ≤ 1 then .error .nestedTooDeep
          else do
            let (items, rest) ← readItems fuel (depth - 1) [] rest
            .ok (array items, rest)
      | '\x7b' :: rest =>
          if depth ≤ 1 then .error .nestedTooDeep
          else do
            let (members, rest) ← readMembers fuel (depth - 1) [] rest
            .ok (object members, rest)
      | c :: rest => if c.isDigit then readMagnitude false (c :: rest) else .error .expectedValue

/-- Read the items of an array after those already read, up to the closing bracket. -/
def readItems : Nat → Nat → List Json → List Char → Reading (List Json × List Char)
  | 0, _, _, _ => .error .nestedTooDeep
  | fuel + 1, depth, items, text =>
      match skipBlanks text, items with
      | [], _ => .error .endInArray
      | ']' :: rest, _ => .ok (items.reverse, rest)
      | ',' :: rest, _ :: _ =>
          match skipBlanks rest with
          | [] => .error .endInValue
          | ']' :: _ => .error .trailingComma
          | rest => do
              let (item, rest) ← readValue fuel depth rest
              readItems fuel depth (item :: items) rest
      | _, _ :: _ => .error .expectedArrayEnd
      | rest, [] => do
          let (item, rest) ← readValue fuel depth rest
          readItems fuel depth [item] rest

/-- Read the members of an object after those already read, up to the closing brace. -/
def readMembers : Nat → Nat → List (String × Json) → List Char → Reading (List (String × Json) × List Char)
  | 0, _, _, _ => .error .nestedTooDeep
  | fuel + 1, depth, members, text =>
      match skipBlanks text, members with
      | [], _ => .error .endInObject
      | '\x7d' :: rest, _ => .ok (members.reverse, rest)
      | ',' :: rest, _ :: _ =>
          match skipBlanks rest with
          | [] => .error .endInValue
          | '\x7d' :: _ => .error .trailingComma
          | '"' :: rest => readMember fuel depth members rest
          | _ => .error .keyNotString
      | _, _ :: _ => .error .expectedObjectEnd
      | '"' :: rest, [] => readMember fuel depth [] rest
      | _, [] => .error .keyNotString

/-- Read one member after the opening quote of its name, and those that follow. -/
def readMember : Nat → Nat → List (String × Json) → List Char → Reading (List (String × Json) × List Char)
  | 0, _, _, _ => .error .nestedTooDeep
  | fuel + 1, depth, members, text => do
      let (name, rest) ← readString (text.length + 1) [] text
      match skipBlanks rest with
      | [] => .error .endInObject
      | ':' :: rest =>
          let (value, rest) ← readValue fuel depth rest
          readMembers fuel depth ((name, value) :: members) rest
      | _ => .error .expectedColon

end

def parse (text : String) : Except SyntaxError Json := do
  let characters := text.toList
  let (value, rest) ← readValue (3 * characters.length + 3) 128 characters
  match skipBlanks rest with
  | [] => .ok value
  | _ => .error .trailingCharacters

end Registrar.Json
