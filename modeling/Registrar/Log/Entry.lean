import Registrar.Json.Writer
/-!
# Log entries

An entry says at which level and for which part of the program something was noted. It is written as
a line of text or as a JSON object on a line.
-/

set_option autoImplicit false

namespace Registrar.Log

inductive Level where
  | error
  | warn
  | info
  | debug
  | trace
deriving DecidableEq, Repr, Inhabited

namespace Level

def name : Level → String
  | error => "ERROR"
  | warn => "WARN"
  | info => "INFO"
  | debug => "DEBUG"
  | trace => "TRACE"

def rank : Level → Nat
  | error => 1
  | warn => 2
  | info => 3
  | debug => 4
  | trace => 5

end Level

structure Entry where
  level : Level
  target : String
  message : String
deriving DecidableEq, Repr, Inhabited

inductive Style where
  | text
  | json
deriving DecidableEq, Repr, Inhabited

namespace Entry

def text (entry : Entry) : String :=
  entry.level.name ++ " " ++ entry.target ++ ": " ++ entry.message

def toJson (entry : Entry) : Json :=
  .object [("level", .string entry.level.name),
    ("fields", .object [("message", .string entry.message)]), ("target", .string entry.target)]

def line (style : Style) (time : String) (entry : Entry) : String :=
  match style with
  | .text =>
      let padding := if entry.level.name.length < 5 then "  " else " "
      time ++ padding ++ entry.text
  | .json =>
      match entry.toJson with
      | .object members => (Json.object (("timestamp", .string time) :: members)).write
      | other => other.write

end Entry

end Registrar.Log
