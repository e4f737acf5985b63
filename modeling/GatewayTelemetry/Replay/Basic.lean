import GatewayTelemetry.Decoder
import GatewayTelemetry.Decimal.Numeral
import GatewayTelemetry.Failure
import GatewayTelemetry.Replay.Schedule

/-!
# Replaying messages

A replay decodes every message of a list a number of times, shared among workers, and counts how
many were decoded and how many failed. The number of jobs has to be below `2 ^ 64`.
-/

namespace GatewayTelemetry
namespace Replay

structure Tally where
  ok : Nat
  failed : Nat
  deriving DecidableEq, Inhabited

def Tally.zero : Tally :=
  ⟨0, 0⟩

def Tally.count {α ε : Type} (tally : Tally) : Except ε α → Tally
  | .ok _ => { tally with ok := tally.ok + 1 }
  | .error _ => { tally with failed := tally.failed + 1 }

/-- Do a job: decode the message that it stands for, and count the outcome. The jobs go through
the messages again and again. -/
def perform (decoder : Decoder) (messages : List Message) (tally : Tally) (job : Nat) : Tally :=
  match messages[job % messages.length]? with
  | some message => tally.count (decoder.decodeMessage message)
  | none => tally

def performAll (decoder : Decoder) (messages : List Message) (order : List Nat) : Tally :=
  order.foldl (perform decoder messages) .zero

/-- What a replay did. -/
structure Outcome where
  total : Nat
  tally : Tally
  deriving DecidableEq, Inhabited

structure Overflow where
  messages : Nat
  iterations : Nat
  deriving DecidableEq

def Overflow.toFailure (overflow : Overflow) : Failure where
  summary :=
    "Replay size overflows: " ++ toString overflow.messages ++ " messages x " ++
      toString overflow.iterations ++ " iterations"
  cause := none

/-- The order of jobs when each worker does all of its jobs before the next one starts. -/
def sequentialOrder (workers total : Nat) : List Nat :=
  (queues workers total).flatten

/-- Replay messages a number of times; no worker at all counts as one. -/
def run (decoder : Decoder) (messages : List Message) (iterations workers : Nat) :
    Except Overflow Outcome :=
  let total := messages.length * iterations
  if Decimal.numeralLimit < total then .error ⟨messages.length, iterations⟩
  else .ok ⟨total, performAll decoder messages (sequentialOrder (max 1 workers) total)⟩

end Replay
end GatewayTelemetry
