import GatewayTelemetry.Command.Help
import GatewayTelemetry.Message.File
import GatewayTelemetry.Replay.Summary
import GatewayTelemetry.Settings

/-!
# Running commands

A command is run on the content of the file that it names and on the values of environment
variables. What it prints and how it ends are values, so running a command reads and prints
nothing.
-/

namespace GatewayTelemetry
namespace Command

def version : String :=
  "0.1.0"

inductive FileFault where
  | missing
  | forbidden
  | directory
  | other (detail : String)
  deriving DecidableEq, Inhabited

def FileFault.message : FileFault → String
  | .missing => "No such file or directory (os error 2)"
  | .forbidden => "Permission denied (os error 13)"
  | .directory => "Is a directory (os error 21)"
  | .other detail => detail

abbrev FileContent :=
  Except FileFault ByteArray

inductive Report where
  | text (content : String)
  /-- The outcome of a replay, to which the time that it took is added. -/
  | replayed (outcome : Replay.Outcome)

def Report.render (elapsed : Replay.Duration) : Report → String
  | .text content => content
  | .replayed outcome => (Replay.Summary.mk outcome elapsed).text

def codes (content : ByteArray) : List UInt8 :=
  content.data.toList

def readPayload (file : String → FileContent) : PayloadSource → Except Failure Payload
  | .text payload => .ok (.text payload)
  | .file path =>
    match file path with
    | .ok content => .ok (.bytes (codes content))
    | .error fault => .error ⟨"Failed to read payload file " ++ path, some fault.message⟩

def runDecode (file : String → FileContent) (topic : String) (source : PayloadSource)
    (pretty : Bool) : Except Failure Report := do
  let payload ← readPayload file source
  match Decoder.gateway.decode payload (.ofTopic topic) with
  | .ok record => .ok (.text (if pretty then record.indented else record.compact))
  | .error error => .error ⟨"Failed to decode uplink", some error.message⟩

def readMessages (file : String → FileContent) (path : String) :
    Except Failure (List Message) :=
  match file path with
  | .ok content => (MessageFile.readBytes content).mapError (MessageFileError.toFailure path)
  | .error fault => .error (MessageFileError.toFailure path (.unreadable fault.message))

def runReplay (file : String → FileContent) (environment : Environment) (input : String)
    (iterations workers : Option Nat) : Except Failure Report := do
  let messages ← readMessages file input
  let iterations := iterations.getD (Settings.iterations environment)
  let workers :=
    match workers with
    | some requested => Settings.clampWorkers requested
    | none => Settings.workers environment
  match Replay.run Decoder.gateway messages iterations workers with
  | .ok outcome => .ok (.replayed outcome)
  | .error overflow => .error overflow.toFailure

def Task.file? : Task → Option String
  | .decode _ (.file path) _ => some path
  | .replay input _ _ => some input
  | _ => none

def file? (arguments : List String) : Option String :=
  match Invocation.read arguments with
  | .ok (.task task) => task.file?
  | _ => none

def ruleLine (rule : Rule × Nat) : String :=
  "#" ++ toString rule.2 ++ "  " ++ padRight 24 rule.1.pattern ++ " " ++ rule.1.category.title

def ruleLines (router : Router) : String :=
  "\n".intercalate (router.rules.zipIdx.map ruleLine)

def runTask (file : String → FileContent) (environment : Environment) :
    Task → Except Failure Report
  | .decode topic source pretty => runDecode file topic source pretty
  | .replay input iterations workers => runReplay file environment input iterations workers
  | .routes => .ok (.text (ruleLines Decoder.gateway.router))

/-- How a program run ends. -/
inductive Ending where
  | usage (error : UsageError)
  | failed (failure : Failure)
  | done (report : Report)

def run (file : String → FileContent) (environment : Environment) (arguments : List String) :
    Ending :=
  match Invocation.read arguments with
  | .error error => .usage error
  | .ok .version => .done (.text (programName ++ " " ++ version))
  | .ok (.help page) => .done (.text page.text)
  | .ok (.task task) =>
    match runTask file environment task with
    | .ok report => .done report
    | .error failure => .failed failure

namespace Ending

/-- The exit code: two for unusable arguments, one for a failure. -/
def exitCode : Ending → Nat
  | .usage _ => 2
  | .failed _ => 1
  | .done _ => 0

def output (elapsed : Replay.Duration) : Ending → String
  | .done report => report.render elapsed ++ "\n"
  | _ => ""

def report? : Ending → Option String
  | .failed failure => some failure.report
  | _ => none

end Ending
end Command
end GatewayTelemetry
