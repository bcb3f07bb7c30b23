import Registrar.Json.Writer
import Registrar.Yaml.Plain
/-!
# Writing YAML documents

Values are written in block style, two blanks deeper for each level; the items of a list stand as
deep as the name of the list. A text is written plain where it reads back as the same text, and
between single quotes otherwise.
-/

set_option autoImplicit false

namespace Registrar.Yaml

def reservedStarts : List Char :=
  ['#', ',', '[', ']', '\x7b', '\x7d', '&', '*', '!', '|', '>', '\'', '"', '%', '@', '`']

/-- Whether a mark that needs a blank beside it has one, or stands at an end. -/
def hasSeparator (text : List Char) : Bool :=
  match text with
  | [] => false
  | ':' :: rest => rest.isEmpty || rest.head? = some ' ' || hasSeparator rest
  | ' ' :: '#' :: _ => true
  | _ :: rest => hasSeparator rest

/-- Whether a mark at the start would begin something else than a text. -/
def hasReservedStart (text : List Char) : Bool :=
  match text with
  | [] => true
  | c :: rest =>
      reservedStarts.contains c ||
        (['-', '?', ':'].contains c && (rest.isEmpty || rest.head? = some ' '))

def isAmbiguous (text : String) : Bool :=
  isNullName text || (boolNamed? text).isSome || (integerOf? text.toList).isSome ||
    ["y", "Y", "yes", "Yes", "YES", "n", "N", "no", "No", "NO", "on", "On", "ON", "off", "Off",
      "OFF"].contains text

def isPlain (text : String) : Bool :=
  let chars := text.toList
  !isAmbiguous text && !hasReservedStart chars && !hasSeparator chars &&
    chars.head? ≠ some ' ' && chars.getLast? ≠ some ' '

def singleQuoted (text : String) : String :=
  "'" ++ text.replace "'" "''" ++ "'"

def writeText (text : String) : String :=
  if isPlain text then text else singleQuoted text

def indentation (depth : Nat) : String :=
  String.ofList (List.replicate (2 * depth) ' ')

mutual

/-- What follows a name: a value on the same line, or lines of their own. -/
def writeMember (depth : Nat) : Json → String
  | .array [] => " []\n"
  | .object [] => " \x7b\x7d\n"
  | .array items => "\n" ++ String.join (writeItems depth items)
  | .object members => "\n" ++ String.join (writeMembers (depth + 1) members)
  | .string text => " " ++ writeText text ++ "\n"
  | value => " " ++ value.write ++ "\n"

def writeMembers (depth : Nat) : List (String × Json) → List String
  | [] => []
  | (name, value) :: rest =>
      (indentation depth ++ writeText name ++ ":" ++ writeMember depth value) ::
        writeMembers depth rest

def writeItems (depth : Nat) : List Json → List String
  | [] => []
  | item :: rest => (indentation depth ++ "-" ++ writeItem depth item) :: writeItems depth rest

/-- What follows the mark of an item. The first member of an object stands beside the mark. -/
def writeItem (depth : Nat) : Json → String
  | .object ((name, value) :: rest) =>
      " " ++ writeText name ++ ":" ++ writeMember (depth + 1) value ++
        String.join (writeMembers (depth + 1) rest)
  | value => writeMember (depth + 1) value

end

/-- A document; the members of its objects are sorted by name. -/
def write (document : Json) : String :=
  match document.normalize with
  | .object members => String.join (writeMembers 0 members)
  | value => writeMember 0 value

end Registrar.Yaml
