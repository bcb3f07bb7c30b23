import Registrar.Api.Address
import Registrar.Cluster.Startup
import Registrar.CommandLine.Arguments
import Registrar.Log.Filter
import Registrar.Resource.Definition
import Registrar.Yaml.Writer
/-!
# Executing a command

A command ends with an exit code, with something on the standard output and perhaps with a complaint
on the standard error. Running the operator notes what it does, and ends when something keeps it from
going on: tracing that cannot be set up, a resync period of zero, a configuration that is not there,
or a server that does not answer.
-/

set_option autoImplicit false

namespace Registrar.CommandLine

structure Surroundings where
  environment : List (String × String)
  /-- Whether there is a configuration that tells how to reach a server. -/
  configured : Bool
  exchange : Api.Request → Except String Api.Response

def Surroundings.lookup (surroundings : Surroundings) (name : String) : Option String :=
  surroundings.environment.lookup name

inductive Output where
  | text (content : String)
  | document (value : Json)
  | log (style : Log.Style) (entries : List Log.Entry)

structure Outcome where
  exit : UInt32
  output : Output := .text ""
  complaint : Option String := none

def programVersion : String :=
  "0.1.0"

def usage : String :=
  summary ++ "\n\nUsage: apiservice-operator <COMMAND>\n\nCommands:\n" ++
    "  run      Run the operator\n" ++
    "  version  Show version information\n" ++
    "  crdgen   Print the APIServiceOperator CRD as YAML\n" ++
    "  help     Print this message or the help of the given subcommand(s)\n"

inductive Stop where
  | failed (failure : Failure)
  /-- There is no configuration; this is the file that was looked for. -/
  | unconfigured (path : String)

def Stop.complaint : Stop → String
  | failed (.config message) => "Error: ConfigError(" ++ Text.quote message ++ ")"
  | failed failure => "Error: " ++ failure.message
  | unconfigured path =>
      "Error: KubeError(InferConfig(InferConfigError \x7b in_cluster: " ++
        "ReadEnvironmentVariable(NotPresent), kubeconfig: ReadConfig(Os \x7b code: 2, " ++
        "kind: NotFound, message: \"No such file or directory\" \x7d, " ++ Text.quote path ++
        ") \x7d))"

def mainTarget : String :=
  "apiservice_operator"

def note (message : String) : Log.Entry :=
  ⟨.info, mainTarget, message⟩

def configurationPath (surroundings : Surroundings) : String :=
  let named := ((surroundings.lookup "KUBECONFIG").getD "").splitOn ":"
  match named.find? (· ≠ "") with
  | some path => path
  | none => (surroundings.lookup "HOME").getD "/root" ++ "/.kube/config"

def tracingFailure (problem : Api.AddressProblem) : Failure :=
  .config ("Failed to initialize OTLP exporter: Exporter otlp encountered the following " ++
    "error(s): invalid URI " ++ problem.message)

/-- The filter that the environment asks for. One that cannot be read counts as none. -/
def filterOf (surroundings : Surroundings) : Log.Filter :=
  ((surroundings.lookup "RUST_LOG").bind Log.Filter.parse?).getD Log.Filter.ordinary

def answer (surroundings : Surroundings) : (question : Cluster.Question) → Id question.Reply
  | .exchange request => surroundings.exchange request
  | .cached _ => none
  | .manifest => none
  | .isShuttingDown => false
  | .now => ""
  | .observe _ => ()

/-- What follows once there is a configuration: the operator starts up. -/
def connect (surroundings : Surroundings) (arguments : RunArguments) :
    List Log.Entry × Except Stop Unit :=
  let identity : Cluster.Identity := ⟨arguments.operatorName, arguments.home⟩
  let started : Except Failure Unit :=
    ((Cluster.startup identity).interpret (m := Id) (answer surroundings)).run
  ([note "Connected to Kubernetes cluster",
      ⟨.info, "apiservice_operator::controller::reconciler", "Starting APIService controller"⟩],
    started.mapError Stop.failed)

/-- Run the operator as far as it comes, with what it notes on the way. -/
def start (surroundings : Surroundings) (arguments : RunArguments) :
    List Log.Entry × Except Stop Unit :=
  let endpoint := surroundings.lookup "OTEL_EXPORTER_OTLP_ENDPOINT"
  match endpoint.elim (.ok ()) Api.Address.check with
  | .error problem => ([], .error (.failed (tracingFailure problem)))
  | .ok () =>
      let tracing :=
        if endpoint.isSome then "OpenTelemetry tracing initialized"
        else "OpenTelemetry tracing disabled (OTEL_EXPORTER_OTLP_ENDPOINT not set)"
      let begun := [note tracing, note ("Starting APIService Operator v" ++ programVersion)]
      if arguments.resyncSeconds = 0 then
        (begun, .error (.failed (.config "--resync-seconds must be greater than zero")))
      else if !surroundings.configured then
        (begun, .error (.unconfigured (configurationPath surroundings)))
      else
        let (entries, result) := connect surroundings arguments
        (begun ++ entries, result)

def runOperator (surroundings : Surroundings) (arguments : RunArguments) : Outcome :=
  let (entries, result) := start surroundings arguments
  let passed := entries.filter (filterOf surroundings).passes
  match result with
  | .ok () => { exit := 0, output := .log arguments.logFormat passed }
  | .error stop =>
      { exit := 1, output := .log arguments.logFormat passed, complaint := some stop.complaint }

def execute (surroundings : Surroundings) : Command → Outcome
  | .help => { exit := 0, output := .text usage }
  | .programVersion =>
      { exit := 0, output := .text ("apiservice-operator " ++ programVersion ++ "\n") }
  | .version =>
      { exit := 0, output := .text ("APIService Operator v" ++ programVersion ++ "\n") }
  | .definition => { exit := 0, output := .document Operator.definition.toJson }
  | .run arguments => runOperator surroundings arguments

def outcome (surroundings : Surroundings) (arguments : List String) : Outcome :=
  match parse surroundings.lookup arguments with
  | .error problem => { exit := 2, complaint := some problem.message }
  | .ok command => execute surroundings command

end Registrar.CommandLine
