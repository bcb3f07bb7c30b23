import Registrar.CommandLine.Execution
import Registrar.Time.Instant
import Std.Time.DateTime.Timestamp
/-!
# The program

The program reads its environment and its arguments, and writes what the command line prescribes. It
has no network of its own: every exchange ends as a connection that is refused.
-/

set_option autoImplicit false

namespace Registrar.Main

open CommandLine

def variableNames : List String :=
  RunOption.all.map RunOption.environmentName ++
    ["OTEL_EXPORTER_OTLP_ENDPOINT", "RUST_LOG", "KUBECONFIG", "HOME"]

def readEnvironment : IO (List (String × String)) := do
  let found ← variableNames.mapM fun name => do
    return (← IO.getEnv name).map fun value => (name, value)
  return found.filterMap id

def readClock : IO String := do
  let now ← Std.Time.Timestamp.now
  return (⟨now.toSecondsSinceUnixEpoch.val, 0⟩ : Instant).write

def writeOutput : Output → IO Unit
  | .text content => IO.print content
  | .document value => IO.print (Yaml.write value)
  | .log style entries => do
      let time ← readClock
      for entry in entries do
        IO.println (entry.line style time)

def run (arguments : List String) : IO UInt32 := do
  let environment ← readEnvironment
  let surroundings : Surroundings := {
    environment := environment
    configured := (environment.lookup "KUBECONFIG").isSome
    exchange := fun _ => .error (systemErrorMessage 111) }
  let result := outcome surroundings arguments
  writeOutput result.output
  for complaint in result.complaint.toList do
    IO.eprintln complaint
  return result.exit

end Registrar.Main

def main (arguments : List String) : IO UInt32 :=
  Registrar.Main.run arguments
