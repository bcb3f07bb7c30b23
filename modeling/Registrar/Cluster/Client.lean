import Registrar.Api.Request
import Registrar.Api.Status
import Registrar.Cluster.Talk
import Registrar.Json.Writer
/-!
# Exchanges with the API server

A response is either the value that was asked for or a failure: the connection broke, the server
refused, or the answer has not the form it should have. A refusal without a proper body is told by
its status code and the text that came instead.
-/

set_option autoImplicit false

namespace Registrar.Cluster

open Api

def contentText : Payload → String
  | .json value => value.normalize.write
  | .text content => content

def refusalOf (response : Response) : Refusal :=
  match response.payload.value.toOption.bind fun value => (Refusal.ofJson value).toOption with
  | some refusal => refusal
  | none =>
      { status := describeStatus response.status
        message := Text.quote (contentText response.payload)
        reason := "Failed to parse error data"
        code := response.status }

def accept (response : Response) : Except ClusterFailure Json :=
  if isFailureStatus response.status then .error (.refused (refusalOf response))
  else
    match response.payload.value with
    | .ok value => .ok value
    | .error cause => .error (.unreadable (.grammar cause))

def decode {α : Type} (read : Json → Decoded α) (value : Json) : Except ClusterFailure α :=
  (read value).mapError fun cause => .unreadable (.content cause)

def outcome {α : Type} (read : Json → Decoded α) (reply : Except String Response) :
    Except ClusterFailure α :=
  match reply with
  | .error text => .error (.transport text)
  | .ok response => accept response >>= decode read

def perform {α : Type} (request : Except ClusterFailure Request) (read : Json → Decoded α) :
    Talk (Except ClusterFailure α) :=
  match request with
  | .error failure => return .error failure
  | .ok request => return outcome read (← ask (.exchange request))

def readOptional {α : Type} (collection name : String) (read : Json → Decoded α) :
    Talk (Except ClusterFailure (Option α)) := do
  match ← perform (Request.read collection name) read with
  | .ok object => return .ok (some object)
  | .error failure =>
      return if failure.saysAbsent then .ok none else .error failure

end Registrar.Cluster
