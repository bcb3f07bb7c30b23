import Registrar.Api.Message
import Registrar.Interaction
import Registrar.Metrics.Basic
import Registrar.Source
/-!
# What an operator can ask

An operator in a cluster exchanges messages with the API server, looks into its cache, reads its
manifest file, looks at the clock and at the shutdown signal, and counts. Nothing else of its
surroundings has an effect on it.
-/

set_option autoImplicit false

namespace Registrar.Cluster

/-- A question of the operator to its surroundings. -/
inductive Question where
  | exchange (request : Api.Request)
  | cached (name : String)
  | manifest
  /-- Ask whether the process is shutting down. -/
  | isShuttingDown
  | now
  | observe (observation : Observation)

/-- The reply to a question. An exchange can fail with the text of the connection. -/
abbrev Question.Reply : Question → Type
  | exchange _ => Except String Api.Response
  | cached _ => Option Registration
  | manifest => FileContent
  | isShuttingDown => Bool
  | now => String
  | observe _ => Unit

abbrev questions : Signature where
  Question := Question
  Reply := Question.Reply

abbrev Talk (α : Type) :=
  Interaction questions α

def ask (question : Question) : Talk question.Reply :=
  .ask question .done

end Registrar.Cluster
