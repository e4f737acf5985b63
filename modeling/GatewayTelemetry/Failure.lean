/-!
# Failures of a command

A failure says what could not be done and, if there is one, the cause.
-/

namespace GatewayTelemetry

structure Failure where
  summary : String
  cause : Option String
  deriving DecidableEq, Inhabited

namespace Failure

def chain (failure : Failure) : List String :=
  failure.summary :: failure.cause.toList

def report (failure : Failure) : String :=
  match failure.cause with
  | some cause => "Error: " ++ failure.summary ++ "\n\nCaused by:\n    " ++ cause
  | none => "Error: " ++ failure.summary

end Failure
end GatewayTelemetry
