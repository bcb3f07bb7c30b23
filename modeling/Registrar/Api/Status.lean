import Registrar.Decode.FromJson
import Registrar.Failure.Basic
import Registrar.Resource.Endpoints
/-!
# Answers that are no object of the operator

A server that refuses a request says so in a refusal. A server that deletes an object may answer
with a status in its place, and discovery answers with a list of resources. The operator only needs
to know that these answers have their proper form.
-/

set_option autoImplicit false

namespace Registrar

namespace Json

def toNatural (limit : Nat) (title : String) (value : Json) : Decoded Nat :=
  (value.toBounded 0 limit title).map Int.toNat

end Json

namespace Refusal

def outline : Outline where
  title := "struct ErrorResponse"
  fields := ["status", "message", "reason", "code"]
  defaulted := ["message", "reason"]

structure Draft where
  status : Option String := none
  message : Option String := none
  reason : Option String := none
  code : Option Nat := none

def readField (name : String) (value : Json) (draft : Draft) : Decoded Draft :=
  match name with
  | "status" => return { draft with status := some (← value.toText) }
  | "message" => return { draft with message := some (← value.toText) }
  | "reason" => return { draft with reason := some (← value.toText) }
  | "code" => return { draft with code := some (← value.toNatural 65535 "u16") }
  | _ => .ok draft

def finish (draft : Draft) : Decoded Refusal := do
  let status ← required "status" draft.status
  let code ← required "code" draft.code
  return ⟨status, draft.message.getD "", draft.reason.getD "", code⟩

def ofJson : Json → Decoded Refusal :=
  Json.toRecord outline {} readField finish

end Refusal

namespace Api

def checkCause : Json → Decoded Unit :=
  Json.toRecord ⟨"struct StatusCause", ["reason", "message", "field"],
    ["reason", "message", "field"]⟩ () (fun _ value _ => value.toText.map fun _ => ()) .ok

def detailsOutline : Outline where
  title := "struct StatusDetails"
  fields := ["name", "group", "kind", "uid", "causes", "retryAfterSeconds"]
  defaulted := ["name", "group", "kind", "uid", "causes", "retryAfterSeconds"]

def checkDetails : Json → Decoded Unit :=
  Json.toRecord detailsOutline () (fun name value _ =>
    match name with
    | "causes" => (Json.toList checkCause value).map fun _ => ()
    | "retryAfterSeconds" => (value.toNatural (UInt32.size - 1) "u32").map fun _ => ()
    | _ => value.toText.map fun _ => ()) .ok

def statusOutline : Outline where
  title := "struct Status"
  fields := ["status", "code", "message", "reason", "details"]
  defaulted := ["status", "code", "message", "reason", "details"]

def checkStatus : Json → Decoded Unit :=
  Json.toRecord statusOutline () (fun name value _ =>
    match name with
    | "status" =>
        (Json.toOption (Json.toVariant [("Success", ()), ("Failure", ())]) value).map fun _ => ()
    | "code" => (value.toNatural 65535 "u16").map fun _ => ()
    | "details" => (Json.toOption checkDetails value).map fun _ => ()
    | _ => value.toText.map fun _ => ()) .ok

def checkResource : Json → Decoded Unit :=
  Json.toLooseRecord "APIResource" () fun name value _ =>
    match name with
    | "categories" | "shortNames" | "verbs" =>
        (Json.toOption (Json.toList Json.toText) value).map fun _ => ()
    | "namespaced" => (Json.toOption Json.toBool value).map fun _ => ()
    | "group" | "kind" | "name" | "singularName" | "storageVersionHash" | "version" =>
        (Json.toOption Json.toText value).map fun _ => ()
    | _ => .ok ()

def checkResourceList : Json → Decoded Unit :=
  Json.toLooseRecord "APIResourceList" () fun name value _ =>
    match name with
    | "apiVersion" => Endpoints.readFixed "v1" value
    | "kind" => Endpoints.readFixed "APIResourceList" value
    | "groupVersion" => (Json.toOption Json.toText value).map fun _ => ()
    | "resources" => (Json.toOption (Json.toList checkResource) value).map fun _ => ()
    | _ => .ok ()

end Api

end Registrar
