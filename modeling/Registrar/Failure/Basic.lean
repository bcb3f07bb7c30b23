import Registrar.Json.Reader
import Registrar.Failure.System
import Registrar.Yaml.Problem
/-!
# Failures

Everything that can go wrong in a cycle is a `Failure`: a cause with its data. The wording, the
short label used in metrics, and the two questions asked about a failure (is it worth a quick
retry, does it only say that something is gone) are functions of the cause.

Failures of independent steps are collected by `aggregate`. An aggregate of one failure reads like
that failure, and layers of aggregates do not change the retry class.
-/

set_option autoImplicit false

namespace Registrar

/-- The refusal that an API server sends in place of an answer. -/
structure Refusal where
  status : String
  message : String
  reason : String
  code : Nat
deriving DecidableEq, Repr, Inhabited

/-- The wording of a refusal: a short form, then all of its data. -/
def Refusal.describe (refusal : Refusal) : String :=
  refusal.message ++ ": " ++ refusal.reason ++ " (ErrorResponse \x7b status: " ++
    Text.quote refusal.status ++ ", message: " ++ Text.quote refusal.message ++ ", reason: " ++
    Text.quote refusal.reason ++ ", code: " ++ toString refusal.code ++ " \x7d)"

/-- Why an answer of the API server cannot be read. -/
inductive Unreadable where
  | grammar (cause : Json.SyntaxError)
  | content (cause : Mismatch)
deriving DecidableEq, Repr

def Unreadable.message : Unreadable → String
  | grammar cause => cause.message
  | content cause => cause.message .text

/-- What can go wrong between the operator and the API server. -/
inductive ClusterFailure where
  | refused (refusal : Refusal)
  | transport (message : String)
  | unreadable (cause : Unreadable)
  /-- An object was addressed by the empty name. -/
  | emptyName
  /-- The path to an object holds a character that no path may hold. -/
  | invalidPath
  /-- The path of a discovery request holds a character that no path may hold. -/
  | invalidAddress
deriving DecidableEq, Repr

def ClusterFailure.message : ClusterFailure → String
  | refused refusal => "ApiError: " ++ refusal.describe
  | transport message => "ServiceError: " ++ message
  | unreadable cause => "Error deserializing response: " ++ cause.message
  | emptyName =>
      "Failed to build request: failed to validate request: A non-empty name is required"
  | invalidPath => "Failed to build request: failed to build request: invalid uri character"
  | invalidAddress => "HttpError: invalid uri character"

def ClusterFailure.refusalCode? : ClusterFailure → Option Nat
  | refused refusal => some refusal.code
  | _ => none

/-- Whether the server refused because there is no such object, by its reason and not its code. -/
def ClusterFailure.saysAbsent : ClusterFailure → Bool
  | refused refusal => refusal.reason = "NotFound"
  | _ => false

inductive Failure where
  | cluster (cause : ClusterFailure)
  /-- A value could not be read as a record. -/
  | encoding (cause : Mismatch)
  /-- The manifest could not be read as a list of registrations. -/
  | manifest (cause : Yaml.Problem)
  | io (message : String)
  | config (message : String)
  | notFound (kind name : String)
  /-- Registrations are applied but not served; the message is the condition's message. -/
  | unavailable (message : String)
  | aggregate (members : List Failure)
  /-- A failure observed while the process was shutting down. -/
  | shuttingDown (message : String)
deriving Repr, Inhabited

namespace Failure

/-- Messages one after the other, with a comma before each but the first. -/
def listMessages : List String → String
  | [] => ""
  | first :: rest => rest.foldl (fun text message => text ++ ", " ++ message) first

/-- Several messages as one: a single message stands for itself, any other count in brackets. -/
def joinMessages : List String → String
  | [only] => only
  | messages => "[" ++ listMessages messages ++ "]"

theorem listMessages_eq_intercalate (messages : List String) :
    listMessages messages = ", ".intercalate messages := by
  cases messages with
  | nil => rfl
  | cons first rest =>
      induction rest generalizing first with
      | nil => rfl
      | cons second rest ih => exact ih (first ++ ", " ++ second)

mutual

def message : Failure → String
  | cluster cause => "Kubernetes API error: " ++ cause.message
  | encoding cause => "Serialization error: " ++ cause.message .value
  | manifest cause => "Manifest error: " ++ cause.message
  | io text => "I/O error: " ++ text
  | config text => "Configuration error: " ++ text
  | notFound kind name => "Resource not found: " ++ kind ++ "/" ++ name
  | unavailable text => text
  | aggregate members => joinMessages (messages members)
  | shuttingDown text => text

def messages : List Failure → List String
  | [] => []
  | failure :: rest => failure.message :: messages rest

end

mutual

/-- Whether a quick retry is worthwhile: somewhere in the failure the cluster, or the availability
of a registration, is to blame. -/
def isRetriable : Failure → Bool
  | cluster _ => true
  | unavailable _ => true
  | aggregate members => anyRetriable members
  | _ => false

/-- Whether a quick retry is worthwhile for one of several failures. -/
def anyRetriable : List Failure → Bool
  | [] => false
  | failure :: rest => failure.isRetriable || anyRetriable rest

end

def kind : Failure → String
  | cluster _ => "kube"
  | encoding _ => "serialization"
  | manifest _ => "serialization"
  | io _ => "io"
  | config _ => "config"
  | notFound _ _ => "not_found"
  | unavailable _ => "unavailable"
  | aggregate _ => "aggregate"
  | shuttingDown _ => "shutdown"

def isNotFound : Failure → Bool
  | cluster cause => cause.refusalCode? = some 404
  | notFound _ _ => true
  | _ => false

@[simp]
theorem messages_eq_map (failures : List Failure) : messages failures = failures.map message := by
  induction failures with
  | nil => rfl
  | cons failure rest ih => simp [messages, ih]

@[simp]
theorem anyRetriable_eq_any (failures : List Failure) :
    anyRetriable failures = failures.any isRetriable := by
  induction failures with
  | nil => rfl
  | cons failure rest ih => simp [anyRetriable, ih]

end Failure

/-- Success if nothing failed, and one failure that holds all of them otherwise. -/
def aggregate (failures : List Failure) : Except Failure Unit :=
  match failures with
  | [] => .ok ()
  | _ :: _ => .error (.aggregate failures)

end Registrar
