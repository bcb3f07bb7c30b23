import Registrar.Json.Reader
import Registrar.Api.StatusCode
/-!
# Requests and responses

A request is addressed by a target: a path, and parameters after a question mark. Parts of a target
come from names that people choose, so it can hold characters that no target may hold; such a
request is never sent.
-/

set_option autoImplicit false

namespace Registrar.Api

inductive Method where
  | get
  | post
  | patch
  | delete
deriving DecidableEq, Repr, Inhabited

def Method.name : Method → String
  | get => "GET"
  | post => "POST"
  | patch => "PATCH"
  | delete => "DELETE"

structure Target where
  path : String
  parameters : List String
deriving DecidableEq, Repr, Inhabited

def isPathChar (c : Char) : Bool :=
  let n := c.toNat
  n = 0x21 || (0x24 ≤ n && n ≤ 0x3B) || n = 0x3D || (0x40 ≤ n && n ≤ 0x5F) ||
    (0x61 ≤ n && n ≤ 0x7A) || n = 0x7C || n = 0x7E || 0x7F ≤ n || c = '"' || c = '\x7b' || c = '\x7d'

def isParameterChar (c : Char) : Bool :=
  let n := c.toNat
  n = 0x21 || (0x24 ≤ n && n ≤ 0x3B) || n = 0x3D || 0x3F ≤ n

def splitAt (mark : Char) : List Char → List (List Char)
  | [] => [[]]
  | c :: rest =>
      if c = mark then [] :: splitAt mark rest
      else
        match splitAt mark rest with
        | piece :: pieces => (c :: piece) :: pieces
        | [] => [[c]]

/-- Read a target. Parameters follow the first question mark and are told apart by ampersands; a
number sign ends the target. -/
def Target.parse? (text : String) : Option Target :=
  let whole := text.toList.takeWhile (· ≠ '#')
  let path := whole.takeWhile (· ≠ '?')
  let query := (whole.dropWhile (· ≠ '?')).drop 1
  if path.all isPathChar && query.all isParameterChar then
    some ⟨String.ofList path, ((splitAt '&' query).filter (!·.isEmpty)).map String.ofList⟩
  else none

structure Request where
  method : Method
  target : Target
  contentType : Option String := none
  body : Option Json := none
deriving DecidableEq, Repr, Inhabited

inductive Payload where
  | json (value : Json)
  | text (content : String)
deriving DecidableEq, Repr, Inhabited

namespace Payload

def value : Payload → Except Json.SyntaxError Json
  | .json value => .ok value
  | .text content => Json.parse content

end Payload

structure Response where
  status : Nat
  payload : Payload
deriving DecidableEq, Repr, Inhabited

end Registrar.Api
