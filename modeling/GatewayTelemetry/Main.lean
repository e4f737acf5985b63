import GatewayTelemetry.Command.Run

/-!
# The program

Reads the file and the environment variables that the command line asks for, runs the command on
them, and prints what it reports. Failures go to the standard error stream.
-/

namespace GatewayTelemetry
namespace Command

def FileFault.ofError : IO.Error → FileFault
  | .noFileOrDirectory .. => .missing
  | .permissionDenied .. => .forbidden
  | .inappropriateType .. => .directory
  | error => .other (toString error)

def readFile (path : String) : IO FileContent := do
  try
    return .ok (← IO.FS.readBinFile path)
  catch error =>
    return .error (.ofError error)

def readNamedFile (arguments : List String) : IO FileContent :=
  match file? arguments with
  | some path => readFile path
  | none => return .ok ByteArray.empty

def readEnvironment : IO Environment := do
  let iterations ← IO.getEnv "UPLINK_REPLAY_ITERATIONS"
  let workers ← IO.getEnv "UPLINK_REPLAY_WORKERS"
  let logJson ← IO.getEnv "UPLINK_LOG_JSON"
  return fun name =>
    if name = "UPLINK_REPLAY_ITERATIONS" then iterations
    else if name = "UPLINK_REPLAY_WORKERS" then workers
    else if name = "UPLINK_LOG_JSON" then logJson
    else none

end Command
end GatewayTelemetry

open GatewayTelemetry Command in
def main (arguments : List String) : IO UInt32 := do
  let content ← readNamedFile arguments
  let environment ← readEnvironment
  let start ← IO.monoNanosNow
  let ending ← IO.mkRef (run (fun _ => content) environment arguments)
  let finish ← IO.monoNanosNow
  let ending ← ending.get
  IO.print (ending.output ⟨finish - start⟩)
  match ending.report? with
  | some report => IO.eprintln report
  | none => pure ()
  return UInt32.ofNat ending.exitCode
