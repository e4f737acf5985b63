import GatewayTelemetry.Failure
import GatewayTelemetry.Message
import GatewayTelemetry.Text.Blank
import GatewayTelemetry.Text.Lines

/-!
# Message files

A message file holds one message on each line. Blank lines are passed over but counted. The first
line that holds no message is reported by its number.
-/

namespace GatewayTelemetry

inductive MessageFileError where
  | unreadable (reason : String)
  | notUtf8
  /-- A line holds no message; lines count from one. -/
  | invalidLine (number : Nat) (cause : Json.Error)

namespace MessageFileError

def toFailure (path : String) : MessageFileError → Failure
  | .unreadable reason => ⟨"Failed to read message file " ++ path, some reason⟩
  | .notUtf8 =>
    ⟨"Failed to read message file " ++ path, some "stream did not contain valid UTF-8"⟩
  | .invalidLine number cause =>
    ⟨"Invalid message on line " ++ toString number, some cause.message⟩

end MessageFileError

namespace MessageFile

abbrev NumberedLine :=
  List Char × Nat

/-- The lines of a content that are not blank, with their numbers from one. -/
def numberedLines (content : String) : List NumberedLine :=
  ((Text.lines content.toList).zipIdx 1).filter fun line => !Text.allBlank line.1

def readLine (line : NumberedLine) : Except MessageFileError Message :=
  (Message.parse (String.ofList line.1)).mapError (.invalidLine line.2)

def read (content : String) : Except MessageFileError (List Message) :=
  (numberedLines content).mapM readLine

def readBytes (content : ByteArray) : Except MessageFileError (List Message) :=
  match String.fromUTF8? content with
  | some content => read content
  | none => .error .notUtf8

end MessageFile
end GatewayTelemetry
