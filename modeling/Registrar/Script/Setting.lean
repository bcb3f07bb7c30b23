import Registrar.Cache
import Registrar.Cluster.Talk
import Registrar.Script.Basic
import Registrar.Shutdown
/-!
# Running against a script

A setting answers all questions of an operator: a scripted server takes the requests, and the cache,
the manifest, the signal and the clock are values. Requests are noted in order. Here a delay takes no
time, and a server that never answers counts as a broken connection.
-/

set_option autoImplicit false

namespace Registrar.Script

open Api (Request Response)
open Cluster (Question Talk)

structure Setting where
  routes : Routes := []
  cache : Cache Registration := Cache.ofList []
  manifest : FileContent := none
  shutdown : Shutdown := {}
  now : String := ""
  metrics : Metrics := {}
  requests : List Request := []

def Reaction.reply : Reaction → Except String Response
  | .respond response => .ok response
  | .fail text => .error text
  | .hang => .error "no response"
  | .follow _ => .ok ⟨200, .text ""⟩

namespace Setting

abbrev Run :=
  StateM Setting

def answer : (question : Question) → Run question.Reply
  | .exchange request =>
      modifyGet fun setting =>
        let (delayed, routes) := setting.routes.react request
        (delayed.reaction.reply,
          { setting with routes := routes, requests := setting.requests ++ [request] })
  | .cached name => return (← get).cache.get? name
  | .manifest => return (← get).manifest
  | .isShuttingDown => return (← get).shutdown.isShuttingDown
  | .now => return (← get).now
  | .observe observation =>
      modify fun setting => { setting with metrics := setting.metrics.observe observation }

def run {α : Type} (setting : Setting) (program : Talk α) : α × Setting :=
  (program.interpret answer).run setting

end Setting

end Registrar.Script
