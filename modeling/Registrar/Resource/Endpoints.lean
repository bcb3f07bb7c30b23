import Registrar.Resource.Metadata
/-!
# Endpoints of a service

The addresses behind a service, grouped into subsets. An address is ready or it is not; a service
can answer as soon as one of its subsets has a ready address.
-/

set_option autoImplicit false

namespace Registrar

open Json (member? toOption toLooseRecord)

structure ObjectReference where
  apiVersion : Option String := none
  fieldPath : Option String := none
  kind : Option String := none
  name : Option String := none
  namespaceName : Option String := none
  resourceVersion : Option String := none
  uid : Option String := none
deriving DecidableEq, Repr, Inhabited

namespace ObjectReference

def readField (name : String) (value : Json) (reference : ObjectReference) :
    Decoded ObjectReference :=
  match name with
  | "apiVersion" => return { reference with apiVersion := ← toOption Json.toText value }
  | "fieldPath" => return { reference with fieldPath := ← toOption Json.toText value }
  | "kind" => return { reference with kind := ← toOption Json.toText value }
  | "name" => return { reference with name := ← toOption Json.toText value }
  | "namespace" => return { reference with namespaceName := ← toOption Json.toText value }
  | "resourceVersion" => return { reference with resourceVersion := ← toOption Json.toText value }
  | "uid" => return { reference with uid := ← toOption Json.toText value }
  | _ => .ok reference

def ofJson : Json → Decoded ObjectReference :=
  toLooseRecord "ObjectReference" {} readField

def toJson (reference : ObjectReference) : Json :=
  .object <|
    member? "apiVersion" (reference.apiVersion.map .string) ++
    member? "fieldPath" (reference.fieldPath.map .string) ++
    member? "kind" (reference.kind.map .string) ++
    member? "name" (reference.name.map .string) ++
    member? "namespace" (reference.namespaceName.map .string) ++
    member? "resourceVersion" (reference.resourceVersion.map .string) ++
    member? "uid" (reference.uid.map .string)

end ObjectReference

structure EndpointAddress where
  hostname : Option String := none
  ip : String := ""
  nodeName : Option String := none
  targetRef : Option ObjectReference := none
deriving DecidableEq, Repr, Inhabited

namespace EndpointAddress

def readField (name : String) (value : Json) (address : EndpointAddress) :
    Decoded EndpointAddress :=
  match name with
  | "hostname" => return { address with hostname := ← toOption Json.toText value }
  | "ip" => return { address with ip := (← toOption Json.toText value).getD "" }
  | "nodeName" => return { address with nodeName := ← toOption Json.toText value }
  | "targetRef" => return { address with targetRef := ← toOption ObjectReference.ofJson value }
  | _ => .ok address

def ofJson : Json → Decoded EndpointAddress :=
  toLooseRecord "EndpointAddress" {} readField

def toJson (address : EndpointAddress) : Json :=
  .object <|
    member? "hostname" (address.hostname.map .string) ++
    [("ip", .string address.ip)] ++
    member? "nodeName" (address.nodeName.map .string) ++
    member? "targetRef" (address.targetRef.map ObjectReference.toJson)

end EndpointAddress

structure EndpointPort where
  appProtocol : Option String := none
  name : Option String := none
  port : Int32 := 0
  protocol : Option String := none
deriving DecidableEq, Repr, Inhabited

namespace EndpointPort

def readField (name : String) (value : Json) (port : EndpointPort) : Decoded EndpointPort :=
  match name with
  | "appProtocol" => return { port with appProtocol := ← toOption Json.toText value }
  | "name" => return { port with name := ← toOption Json.toText value }
  | "port" => return { port with port := (← toOption Json.toInt32 value).getD 0 }
  | "protocol" => return { port with protocol := ← toOption Json.toText value }
  | _ => .ok port

def ofJson : Json → Decoded EndpointPort :=
  toLooseRecord "EndpointPort" {} readField

def toJson (port : EndpointPort) : Json :=
  .object <|
    member? "appProtocol" (port.appProtocol.map .string) ++
    member? "name" (port.name.map .string) ++
    [("port", .ofInt32 port.port)] ++
    member? "protocol" (port.protocol.map .string)

end EndpointPort

structure EndpointSubset where
  addresses : Option (List EndpointAddress) := none
  notReadyAddresses : Option (List EndpointAddress) := none
  ports : Option (List EndpointPort) := none
deriving DecidableEq, Repr, Inhabited

namespace EndpointSubset

def readField (name : String) (value : Json) (subset : EndpointSubset) : Decoded EndpointSubset :=
  match name with
  | "addresses" =>
      return { subset with addresses := ← toOption (Json.toList EndpointAddress.ofJson) value }
  | "notReadyAddresses" =>
      return { subset with
        notReadyAddresses := ← toOption (Json.toList EndpointAddress.ofJson) value }
  | "ports" => return { subset with ports := ← toOption (Json.toList EndpointPort.ofJson) value }
  | _ => .ok subset

def ofJson : Json → Decoded EndpointSubset :=
  toLooseRecord "EndpointSubset" {} readField

def toJson (subset : EndpointSubset) : Json :=
  .object <|
    member? "addresses" (subset.addresses.map fun list => .array (list.map EndpointAddress.toJson)) ++
    member? "notReadyAddresses"
      (subset.notReadyAddresses.map fun list => .array (list.map EndpointAddress.toJson)) ++
    member? "ports" (subset.ports.map fun list => .array (list.map EndpointPort.toJson))

def isReady (subset : EndpointSubset) : Bool :=
  match subset.addresses with
  | some (_ :: _) => true
  | _ => false

end EndpointSubset

structure Endpoints where
  metadata : Metadata := {}
  subsets : Option (List EndpointSubset) := none
deriving DecidableEq, Repr, Inhabited

namespace Endpoints

def apiVersion : String :=
  "v1"

def kind : String :=
  "Endpoints"

def readFixed (expected : String) (value : Json) : Decoded Unit := do
  let text ← value.toText
  if text = expected then .ok () else .error (.wrongValue (.string text) expected)

/-- Read one field. The kind and its version must be right where they are given. -/
def readField (name : String) (value : Json) (endpoints : Endpoints) : Decoded Endpoints :=
  match name with
  | "apiVersion" => (readFixed apiVersion value).map fun _ => endpoints
  | "kind" => (readFixed kind value).map fun _ => endpoints
  | "metadata" => return { endpoints with metadata := (← toOption Metadata.ofJson value).getD {} }
  | "subsets" =>
      return { endpoints with subsets := ← toOption (Json.toList EndpointSubset.ofJson) value }
  | _ => .ok endpoints

def ofJson : Json → Decoded Endpoints :=
  toLooseRecord kind {} readField

def toJson (endpoints : Endpoints) : Json :=
  .object <|
    [("apiVersion", .string apiVersion), ("kind", .string kind),
      ("metadata", endpoints.metadata.toJson)] ++
    member? "subsets"
      (endpoints.subsets.map fun subsets => .array (subsets.map EndpointSubset.toJson))

def hasReadyAddress (endpoints : Endpoints) : Bool :=
  (endpoints.subsets.getD []).any EndpointSubset.isReady

end Endpoints

end Registrar
