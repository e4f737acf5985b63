import GatewayTelemetry.Main
import GatewayTelemetry.Proofs.Replay.Counting
import GatewayTelemetry.Proofs.Json.Normal
import GatewayTelemetry.Proofs.Json.OneLine
import GatewayTelemetry.Proofs.Message.Reading
import GatewayTelemetry.Proofs.Message.Metadata
import GatewayTelemetry.Proofs.Message.Forms
import GatewayTelemetry.Proofs.Text.ByteOrder
import GatewayTelemetry.Proofs.Message.RoundTrip
import GatewayTelemetry.Proofs.Message.Storage
import GatewayTelemetry.Proofs.Pattern.Search
import GatewayTelemetry.Proofs.Topic.Builtin
import GatewayTelemetry.Proofs.Telemetry.Extraction
import GatewayTelemetry.Proofs.Decoder.Fidelity
import GatewayTelemetry.Proofs.Decoder.Bytes
import GatewayTelemetry.Proofs.Decoder.Nesting
import GatewayTelemetry.Proofs.Record.Lossless
import GatewayTelemetry.Proofs.Decoder.Outcomes
import GatewayTelemetry.Proofs.Decoder.Log
import GatewayTelemetry.Proofs.Command.DecodeLine
import GatewayTelemetry.Proofs.Topic.Serial
import GatewayTelemetry.Proofs.Topic.Language
import GatewayTelemetry.Proofs.Telemetry.Locks
import GatewayTelemetry.Proofs.Telemetry.Slices
import GatewayTelemetry.Proofs.Pattern.Captures
import GatewayTelemetry.Proofs.Pattern.Numbering
import GatewayTelemetry.Proofs.Topic.RuleLists
import GatewayTelemetry.Proofs.Telemetry.OrderedMap
import GatewayTelemetry.Proofs.Message.FirstFault
import GatewayTelemetry.Proofs.Json.Skipping
import GatewayTelemetry.Proofs.Json.Structures
import GatewayTelemetry.Proofs.Decimal.Numeral
import GatewayTelemetry.Proofs.Settings
