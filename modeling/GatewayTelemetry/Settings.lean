import GatewayTelemetry.Decimal.Numeral

/-!
# Settings from the environment

How often to replay a message file and with how many workers may be given by environment
variables. A variable that is absent or not a usable numeral leaves the default.
-/

namespace GatewayTelemetry

abbrev Environment :=
  String → Option String

/-- The environment of a process whose variables hold bytes. A variable that does not hold UTF-8
counts as absent. -/
def Environment.ofBytes (stored : String → Option ByteArray) : Environment := fun name =>
  (stored name).bind String.fromUTF8?

namespace Settings

def defaultIterations : Nat :=
  1

def defaultWorkers : Nat :=
  4

def maxWorkers : Nat :=
  64

/-- A number of workers brought between one and the greatest number. -/
def clampWorkers (requested : Nat) : Nat :=
  min maxWorkers (max 1 requested)

theorem one_le_clampWorkers (requested : Nat) : 1 ≤ clampWorkers requested := by
  simp only [clampWorkers, maxWorkers]
  omega

theorem clampWorkers_le (requested : Nat) : clampWorkers requested ≤ maxWorkers :=
  Nat.min_le_left maxWorkers (max 1 requested)

def number? (environment : Environment) (variableName : String) : Option Nat :=
  (environment variableName).bind Decimal.numeral?

/-- Passes over a message file: a positive number, or the default. -/
def iterations (environment : Environment) : Nat :=
  match number? environment "UPLINK_REPLAY_ITERATIONS" with
  | some count => if 1 ≤ count then count else defaultIterations
  | none => defaultIterations

/-- Workers: any number, clamped, or the default. -/
def workers (environment : Environment) : Nat :=
  match number? environment "UPLINK_REPLAY_WORKERS" with
  | some count => clampWorkers count
  | none => defaultWorkers

/-- Whether logs are to be JSON: only if the variable says `true`. -/
def logJson (environment : Environment) : Bool :=
  environment "UPLINK_LOG_JSON" == some "true"

end Settings
end GatewayTelemetry
