import GatewayTelemetry.Decimal.Binary64
import GatewayTelemetry.Replay.Basic

/-!
# Summaries of replays

A summary adds the time that a replay took to its outcome. The rate is computed in binary64
numbers and shown as the nearest integer, a half going to the even one.
-/

namespace GatewayTelemetry
namespace Replay

structure Duration where
  nanoseconds : Nat
  deriving DecidableEq, Inhabited

namespace Duration

def ofParts (seconds nanoseconds : Nat) : Duration :=
  ⟨seconds * 1000000000 + nanoseconds⟩

def milliseconds (duration : Duration) : Nat :=
  duration.nanoseconds / 1000000

/-- The span in seconds: whole seconds and the rest are converted each for itself. -/
def seconds (duration : Duration) : Float :=
  (duration.nanoseconds / 1000000000).toUInt64.toFloat +
    (duration.nanoseconds % 1000000000).toUInt64.toFloat / 1e9

end Duration

structure Summary where
  outcome : Outcome
  elapsed : Duration
  deriving DecidableEq, Inhabited

namespace Summary

def perSecond (summary : Summary) : Float :=
  let seconds := summary.elapsed.seconds
  if 0 < seconds then summary.outcome.total.toUInt64.toFloat / seconds else 0

def text (summary : Summary) : String :=
  let outcome := summary.outcome
  "total: " ++ toString outcome.total ++ ", ok: " ++ toString outcome.tally.ok ++
    ", failed: " ++ toString outcome.tally.failed ++
    ", elapsed: " ++ toString summary.elapsed.milliseconds ++ " ms, rate: " ++
    toString (Decimal.Binary64.ofBits summary.perSecond.toBits).round ++ " msg/s"

end Summary
end Replay
end GatewayTelemetry
