import GatewayTelemetry.Command.Arguments
import GatewayTelemetry.Decimal.Numeral

/-!
# What a command line asks for

The command line names one of three commands, with the options of that command after its name. The
verbosity option may stand once before the name and once after it. Instead of a command, the version
may be asked for, or help; behind the name of a command, a request for help is for its own page.
-/

namespace GatewayTelemetry
namespace Command

inductive PayloadSource where
  | text (payload : String)
  | file (path : String)
  deriving DecidableEq, Inhabited

inductive Task where
  | decode (topic : String) (source : PayloadSource) (pretty : Bool)
  | replay (input : String) (iterations workers : Option Nat)
  | routes
  deriving DecidableEq, Inhabited

/-- A page of help: on the program, on a command, or on the pages themselves. -/
inductive Page where
  | program
  | decode
  | replay
  | routes
  | help
  deriving DecidableEq, Inhabited

/-- What a command line asks for. -/
inductive Invocation where
  | version
  | help (page : Page)
  | task (task : Task)
  deriving DecidableEq, Inhabited

def verboseOption : OptionSpec :=
  ⟨"verbose", some 'v', false⟩

def decodeOptions : List OptionSpec :=
  [⟨"topic", some 't', true⟩, ⟨"payload", some 'p', true⟩, ⟨"payload-file", some 'f', true⟩,
    ⟨"pretty", none, false⟩, verboseOption, helpOption]

def replayOptions : List OptionSpec :=
  [⟨"input", some 'i', true⟩, ⟨"iterations", some 'n', true⟩, ⟨"workers", some 'w', true⟩,
    verboseOption, helpOption]

def routesOptions : List OptionSpec :=
  [verboseOption, helpOption]

def readOptions (specs : List OptionSpec) (arguments : List String) :
    Except UsageError (List Given) := do
  let given ← readArguments specs arguments
  checkRepeated given
  .ok given

def filePath (long path : String) : Except UsageError String :=
  if path.isEmpty then .error (.absentValue long) else .ok path

def required (given : List Given) (long : String) : Except UsageError String :=
  match value? given long with
  | some value => .ok value
  | none => .error (.absentOption long)

def numberOption (given : List Given) (long : String) : Except UsageError (Option Nat) :=
  match value? given long with
  | none => .ok none
  | some value =>
    match Decimal.numeral? value with
    | some number => .ok (some number)
    | none => .error (.badNumber long value)

/-- The payload source of a `decode` command: exactly one is given. -/
def payloadSource (given : List Given) : Except UsageError PayloadSource :=
  match value? given "payload", value? given "payload-file" with
  | some payload, none => .ok (.text payload)
  | none, some path => (filePath "payload-file" path).map .file
  | some _, some _ => .error (.exclusiveOptions "payload" "payload-file")
  | none, none => .error (.absentOption "payload")

def decodeTask (given : List Given) : Except UsageError Task := do
  let topic ← required given "topic"
  let source ← payloadSource given
  .ok (.decode topic source (isGiven given "pretty"))

def replayTask (given : List Given) : Except UsageError Task := do
  let input ← required given "input"
  let input ← filePath "input" input
  let iterations ← numberOption given "iterations"
  let workers ← numberOption given "workers"
  .ok (.replay input iterations workers)

/-! ## Help -/

def checkPath (given : List Given) (long : String) : Except UsageError Unit :=
  match value? given long with
  | some path => discard (filePath long path)
  | none => .ok ()

/-- Values of options are looked at where they stand, so one that is wrong is found before a request
for help behind it, while an option that is missing is not. -/
def checkValues (given : List Given) : Except UsageError Unit := do
  checkPath given "payload-file"
  checkPath given "input"
  discard (numberOption given "iterations")
  discard (numberOption given "workers")

def readCommandWith (page : Page) (specs : List OptionSpec)
    (task : List Given → Except UsageError Task) (arguments : List String) :
    Except UsageError Invocation := do
  let given ← readOptions specs arguments
  if isGiven given helpOption.long then
    checkValues given
    .ok (.help page)
  else (task given).map .task

def readDecode : List String → Except UsageError Invocation :=
  readCommandWith .decode decodeOptions decodeTask

def readReplay : List String → Except UsageError Invocation :=
  readCommandWith .replay replayOptions replayTask

def readRoutes : List String → Except UsageError Invocation :=
  readCommandWith .routes routesOptions fun _ => .ok .routes

def Page.ofCommand? (name : String) : Option Page :=
  if name = "decode" then some .decode
  else if name = "replay" then some .replay
  else if name = "routes" then some .routes
  else if name = "help" then some .help
  else none

/-- Read the name of the command on which help is wanted; no command has commands of its own. -/
def readHelp : List String → Except UsageError Invocation
  | [] => .ok (.help .program)
  | name :: others =>
    match Page.ofCommand? name, others with
    | none, _ => .error (.unknownCommand name)
    | some page, [] => .ok (.help page)
    | some _, other :: _ => .error (.unknownCommand other)

/-! ## Command lines -/

def readCommand (name : String) (arguments : List String) : Except UsageError Invocation :=
  if name = "decode" then readDecode arguments
  else if name = "replay" then readReplay arguments
  else if name = "routes" then readRoutes arguments
  else if name = "help" then readHelp arguments
  else .error (.unknownCommand name)

/-- What the letters before a command name say: the version or help is wanted, or the verbosity
option was given by now. -/
inductive Leading where
  | version
  | help
  | verbose (seen : Bool)

/-- Read a cluster before the command name; nothing is read behind the letter of the version or of
help. -/
def readLeading (seen : Bool) : List Char → Except UsageError Leading
  | [] => .ok (.verbose seen)
  | letter :: letters =>
    if letter = 'V' then .ok .version
    else if letter = 'h' then .ok .help
    else if letter = 'v' then
      if seen then .error (.repeatedOption "verbose") else readLeading true letters
    else .error (.unknownOption (String.singleton letter))

/-- Read a command line; whether the verbosity option has been given is known. -/
def readFrom (seen : Bool) : List String → Except UsageError Invocation
  | [] => .error .noCommand
  | argument :: arguments =>
    match Shape.ofArgument argument with
    | .plain => readCommand argument arguments
    | .endOfOptions => .error .noCommand
    | .long name value =>
      if value.isSome then .error (.needlessValue name)
      else if name = "version" then .ok .version
      else if name = "help" then .ok (.help .program)
      else if name = "verbose" then
        if seen then .error (.repeatedOption name) else readFrom true arguments
      else .error (.unknownOption name)
    | .cluster letters =>
      match readLeading seen letters with
      | .ok .version => .ok .version
      | .ok .help => .ok (.help .program)
      | .ok (.verbose seen) => readFrom seen arguments
      | .error error => .error error

def Invocation.read (arguments : List String) : Except UsageError Invocation :=
  readFrom false arguments

end Command
end GatewayTelemetry
