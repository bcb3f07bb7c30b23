import Registrar.Api.Message
/-!
# Scripted API servers

A scripted server knows a list of routes. A route matches requests by method, path and whether they
watch, and gives its responses one after the other; the last one is given for ever. What no route
matches does not exist.
-/

set_option autoImplicit false

namespace Registrar

open Api (Request Response)

namespace Api.Request

def isWatch (request : Request) : Bool :=
  request.target.parameters.contains "watch=true"

end Api.Request

namespace Script

structure Change where
  time : Nat
  event : Json
deriving DecidableEq, Repr, Inhabited

inductive Reaction where
  | respond (response : Response)
  | fail (text : String)
  /-- There is never an answer. -/
  | hang
  | follow (changes : List Change)
deriving DecidableEq, Repr, Inhabited

/-- A reaction that comes after a number of milliseconds. -/
structure Delayed where
  reaction : Reaction
  delay : Nat := 0
deriving DecidableEq, Repr, Inhabited

structure Pattern where
  method : String
  path : String
  watches : Bool
deriving DecidableEq, Repr, Inhabited

def Pattern.ofRequest (request : Request) : Pattern :=
  ⟨request.method.name, request.target.path, request.isWatch⟩

/-- The reactions of a route that are still to come. -/
structure Route where
  pattern : Pattern
  reactions : List Delayed
deriving DecidableEq, Repr, Inhabited

abbrev Routes :=
  List Route

def absent (path : String) : Delayed :=
  let body : Json := .object
    [("kind", .string "Status"), ("status", .string "Failure"), ("code", .integer 404),
      ("reason", .string "NotFound"), ("message", .string (path ++ " not found"))]
  { reaction := .respond ⟨404, .json body⟩ }

def advance : List Delayed → List Delayed
  | [] => []
  | [last] => [last]
  | _ :: rest => rest

namespace Routes

def insert (routes : Routes) (route : Route) : Routes :=
  routes.filter (fun other => other.pattern ≠ route.pattern) ++ [route]

/-- Routes in the order given; the last one with a pattern counts. -/
def ofList (routes : List Route) : Routes :=
  routes.foldl insert []

def react (request : Request) : Routes → Delayed × Routes
  | [] => (absent request.target.path, [])
  | route :: rest =>
      if route.pattern = Pattern.ofRequest request then
        match route.reactions with
        | [] => (absent request.target.path, route :: rest)
        | reaction :: later =>
            (reaction, { route with reactions := advance (reaction :: later) } :: rest)
      else
        let (reaction, rest) := react request rest
        (reaction, route :: rest)

end Routes

end Script

end Registrar
