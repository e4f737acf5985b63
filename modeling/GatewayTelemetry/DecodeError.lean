import GatewayTelemetry.Category

/-!
# Why a message is not decoded

Only the documents of a message and the part of the payload that its category needs can be at
fault. A topic without a rule and a key without a label are no errors.
-/

namespace GatewayTelemetry

inductive SliceKind where
  | text
  | sequence
  | lockEntries
  deriving DecidableEq, Inhabited

def SliceKind.describe : SliceKind → String
  | .text => "text"
  | .sequence => "a sequence"
  | .lockEntries => "a sequence of lock entries"

/-- Why a message is not decoded. -/
inductive DecodeError where
  | json (cause : Json.Error)
  | payload (cause : Json.Error)
  | noReadings (category : Category)
  | wrongReadings (category : Category) (expected : SliceKind)
  | metadata (cause : Json.Error)
  | unwritable (detail : String)

namespace DecodeError

def showSlice (category : Category) : String :=
  "'" ++ ".".intercalate category.slicePath ++ "' for " ++ category.title ++ " payload"

def message : DecodeError → String
  | .json cause => "Parse error: " ++ cause.message
  | .payload cause => "Parse error: Invalid JSON: " ++ cause.message
  | .noReadings category => "Missing slice " ++ showSlice category
  | .wrongReadings category expected =>
    "Slice " ++ showSlice category ++ " is not " ++ expected.describe
  | .metadata cause => "Metadata error: " ++ cause.message
  | .unwritable detail => "Serialization error: " ++ detail

end DecodeError
end GatewayTelemetry
