import Registrar.CommandLine.Number
import Registrar.Log.Entry
/-!
# Arguments

The first argument names a command; the arguments after it belong to the command. Options are looked
at from left to right, and a value is checked as soon as the next argument shows that it is complete.
What no argument sets is taken from the environment, and from the defaults after that.
-/

set_option autoImplicit false

namespace Registrar.CommandLine

/-- An option of the command that runs the operator. -/
inductive RunOption where
  | home
  | operatorName
  | manifest
  | resyncSeconds
  | metricsPort
  | logFormat
deriving DecidableEq, Repr, Inhabited

namespace RunOption

def all : List RunOption :=
  [home, operatorName, manifest, resyncSeconds, metricsPort, logFormat]

def name : RunOption → String
  | home => "namespace"
  | operatorName => "operator-name"
  | manifest => "manifest"
  | resyncSeconds => "resync-seconds"
  | metricsPort => "metrics-port"
  | logFormat => "log-format"

def placeholder : RunOption → String
  | home => "<NAMESPACE>"
  | operatorName => "<OPERATOR_NAME>"
  | manifest => "<MANIFEST>"
  | resyncSeconds => "<RESYNC_SECONDS>"
  | metricsPort => "<METRICS_PORT>"
  | logFormat => "<LOG_FORMAT>"

def environmentName : RunOption → String
  | home => "OPERAND_NAMESPACE"
  | operatorName => "OPERATOR_NAME"
  | manifest => "APISERVICE_MANIFEST"
  | resyncSeconds => "RESYNC_SECONDS"
  | metricsPort => "METRICS_PORT"
  | logFormat => "LOG_FORMAT"

def describe (option : RunOption) : String :=
  "--" ++ option.name ++ " " ++ option.placeholder

end RunOption

inductive Problem where
  /-- No command is given. -/
  | noCommand
  | unknownCommand (text : String)
  | unexpected (text : String)
  | needlessValue (value flag : String)
  | missingValue (option : RunOption)
  | invalidValue (option : RunOption) (value : String) (cause : Option NumberProblem)
  | repeated (option : RunOption)
  /-- An option that has no default is not given. -/
  | missingOption (option : RunOption)
deriving DecidableEq, Repr

def summary : String :=
  "Kubernetes operator that reconciles aggregated APIService registrations"

def Problem.message : Problem → String
  | noCommand => summary
  | unknownCommand text => "error: unrecognized subcommand '" ++ text ++ "'"
  | unexpected text => "error: unexpected argument '" ++ text ++ "' found"
  | needlessValue value flag =>
      "error: unexpected value '" ++ value ++ "' for '" ++ flag ++
        "' found; no more were expected"
  | missingValue option =>
      "error: a value is required for '" ++ option.describe ++ "' but none was supplied"
  | invalidValue option value cause =>
      "error: invalid value '" ++ value ++ "' for '" ++ option.describe ++ "'" ++
        cause.elim "" fun cause => ": " ++ cause.message
  | repeated option =>
      "error: the argument '" ++ option.describe ++ "' cannot be used multiple times"
  | missingOption option =>
      "error: the following required arguments were not provided:\n  " ++ option.describe

structure RunArguments where
  home : String
  operatorName : String
  manifest : String
  resyncSeconds : UInt64
  metricsPort : UInt16
  logFormat : Log.Style
deriving DecidableEq, Repr, Inhabited

structure Draft where
  home : Option String := none
  operatorName : Option String := none
  manifest : Option String := none
  resyncSeconds : Option UInt64 := none
  metricsPort : Option UInt16 := none
  logFormat : Option Log.Style := none
deriving DecidableEq, Repr, Inhabited

namespace Draft

def has (draft : Draft) : RunOption → Bool
  | .home => draft.home.isSome
  | .operatorName => draft.operatorName.isSome
  | .manifest => draft.manifest.isSome
  | .resyncSeconds => draft.resyncSeconds.isSome
  | .metricsPort => draft.metricsPort.isSome
  | .logFormat => draft.logFormat.isSome

def set (draft : Draft) (option : RunOption) (text : String) : Except Problem Draft :=
  let invalid (cause : NumberProblem) : Problem := .invalidValue option text (some cause)
  match option with
  | .home => .ok { draft with home := some text }
  | .operatorName => .ok { draft with operatorName := some text }
  | .manifest =>
      if text = "" then .error (.missingValue option)
      else .ok { draft with manifest := some text }
  | .resyncSeconds =>
      match readNatural (UInt64.size - 1) text with
      | .ok value => .ok { draft with resyncSeconds := some (UInt64.ofNat value) }
      | .error cause => .error (invalid cause)
  | .metricsPort =>
      match readBetween 0 65535 text with
      | .ok value => .ok { draft with metricsPort := some (UInt16.ofNat value.toNat) }
      | .error cause => .error (invalid cause)
  | .logFormat =>
      match text with
      | "text" => .ok { draft with logFormat := some .text }
      | "json" => .ok { draft with logFormat := some .json }
      | "" => .error (.missingValue option)
      | _ => .error (.invalidValue option text none)

/-- Give an option the value of an argument, which can be done once. -/
def setOnce (draft : Draft) (option : RunOption) (text : String) : Except Problem Draft :=
  if draft.has option then .error (.repeated option) else draft.set option text

def complete (environment : String → Option String) (draft : Draft) :
    List RunOption → Except Problem Draft
  | [] => .ok draft
  | option :: rest =>
      match draft.has option, environment option.environmentName with
      | false, some text => do complete environment (← draft.set option text) rest
      | _, _ => complete environment draft rest

def finish (draft : Draft) : Except Problem RunArguments :=
  match draft.manifest with
  | none => .error (.missingOption .manifest)
  | some manifest =>
      .ok {
        home := draft.home.getD "default"
        operatorName := draft.operatorName.getD "cluster"
        manifest := manifest
        resyncSeconds := draft.resyncSeconds.getD 10
        metricsPort := draft.metricsPort.getD 8080
        logFormat := draft.logFormat.getD .text }

end Draft

inductive Argument where
  /-- All arguments after it are taken as they are. -/
  | escape
  | long (name : String) (value : Option String)
  | short (letter : Char)
  | plain (text : String)
deriving DecidableEq, Repr

def Argument.ofChars : List Char → Argument
  | ['-', '-'] => .escape
  | '-' :: '-' :: rest =>
      let value :=
        match rest.dropWhile (· ≠ '=') with
        | _ :: value => some (String.ofList value)
        | [] => none
      .long (String.ofList (rest.takeWhile (· ≠ '='))) value
  | '-' :: letter :: _ => .short letter
  | chars => .plain (String.ofList chars)

def Argument.ofText (text : String) : Argument :=
  ofChars text.toList

abbrev Pending :=
  Option (RunOption × Option String)

def settle (draft : Draft) (pending : Pending) : Except Problem Draft :=
  match pending with
  | none => .ok draft
  | some (option, none) => .error (.missingValue option)
  | some (option, some text) => draft.setOnce option text

/-- Read the options of a command that knows some of them; there are none if help is asked for. -/
def scan (known : List RunOption) (draft : Draft) (pending : Pending) :
    List String → Except Problem (Option Draft)
  | [] => (settle draft pending).map some
  | text :: rest =>
      match Argument.ofText text with
      | .escape =>
          match rest with
          | [] => (settle draft pending).map some
          | next :: _ => .error (.unexpected next)
      | .long "help" none => (settle draft pending).map fun _ => none
      | .long "help" (some value) => .error (.needlessValue value "--help")
      | .long name value =>
          match known.find? fun option => option.name = name with
          | none => .error (.unexpected ("--" ++ name))
          | some option => do
              let draft ← settle draft pending
              match value with
              | none => scan known draft (some (option, none)) rest
              | some value => scan known (← draft.setOnce option value) none rest
      | .short 'h' => (settle draft pending).map fun _ => none
      | .short letter => .error (.unexpected ("-" ++ String.singleton letter))
      | .plain text =>
          match pending with
          | some (option, none) => scan known draft (some (option, some text)) rest
          | _ => .error (.unexpected text)

inductive Command where
  | help
  /-- Show the name and the version of the program. -/
  | programVersion
  /-- Show the title and the version of the operator. -/
  | version
  | definition
  | run (arguments : RunArguments)
deriving DecidableEq, Repr

def commandNames : List String :=
  ["run", "version", "crdgen", "help"]

/-- Read the arguments of a command that has no options of its own. -/
def parseBare (command : Command) (arguments : List String) : Except Problem Command :=
  (scan [] {} none arguments).map fun draft => if draft.isSome then command else .help

def parseRun (environment : String → Option String) (arguments : List String) :
    Except Problem Command := do
  match ← scan RunOption.all {} none arguments with
  | none => return .help
  | some draft =>
      let draft ← draft.complete environment RunOption.all
      return .run (← draft.finish)

/-- Read the arguments of the command that shows help: at most one command. -/
def parseHelp : List String → Except Problem Command
  | [] => .ok .help
  | name :: rest =>
      if !commandNames.contains name then .error (.unknownCommand name)
      else
        match rest with
        | [] => .ok .help
        | next :: _ => .error (.unknownCommand next)

def parse (environment : String → Option String) : List String → Except Problem Command
  | [] => .error .noCommand
  | text :: rest =>
      match Argument.ofText text with
      | .escape =>
          match rest with
          | [] => .error .noCommand
          | next :: _ =>
              if commandNames.contains next then .error (.unexpected next)
              else .error (.unknownCommand next)
      | .long "help" none => .ok .help
      | .long "version" none => .ok .programVersion
      | .long "help" (some value) => .error (.needlessValue value "--help")
      | .long "version" (some value) => .error (.needlessValue value "--version")
      | .long name _ => .error (.unexpected ("--" ++ name))
      | .short 'h' => .ok .help
      | .short 'V' => .ok .programVersion
      | .short letter => .error (.unexpected ("-" ++ String.singleton letter))
      | .plain "run" => parseRun environment rest
      | .plain "version" => parseBare .version rest
      | .plain "crdgen" => parseBare .definition rest
      | .plain "help" => parseHelp rest
      | .plain text => .error (.unknownCommand text)

end Registrar.CommandLine
