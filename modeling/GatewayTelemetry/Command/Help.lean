import GatewayTelemetry.Command.Invocation

/-!
# Pages of help

A page of help says what the program or a command does, how it is called, and which commands and
options it knows, each with what it is for. Names stand in one column and texts in another.
-/

namespace GatewayTelemetry
namespace Command

def programName : String :=
  "uplink"

def padRight (width : Nat) (text : String) : String :=
  text ++ String.ofList (List.replicate (width - text.length) ' ')

def OptionSpec.valueName (spec : OptionSpec) : String :=
  String.ofList (spec.long.toList.map fun c => if c = '-' then '_' else c.toUpper)

def OptionSpec.shown (spec : OptionSpec) : String :=
  let short :=
    match spec.short with
    | some letter => "-" ++ String.singleton letter ++ ", "
    | none => "    "
  let value := if spec.takesValue then " <" ++ spec.valueName ++ ">" else ""
  short ++ "--" ++ spec.long ++ value

def helpSection (title : String) (rows : List (String × String)) : String :=
  let width := (rows.map (·.1.length)).foldl max 0
  let lines := rows.map fun (name, text) => "  " ++ padRight width name ++ "  " ++ text
  title ++ ":\n" ++ "\n".intercalate lines

def optionSection (options : List (OptionSpec × String)) : String :=
  helpSection "Options" (options.map fun (spec, text) => (spec.shown, text))

namespace Page

def about : Page → String
  | .program => "Uplink decoder - normalize V2831 gateway messages"
  | .decode => "Decode a single message and print the record as JSON"
  | .replay => "Decode a JSON Lines message file repeatedly and report throughput"
  | .routes => "List topic rules in evaluation order"
  | .help => "Print this message or the help of the given subcommand(s)"

def usage : Page → String
  | .program => "[OPTIONS] <COMMAND>"
  | .decode =>
    "decode [OPTIONS] --topic <TOPIC> <--payload <PAYLOAD>|--payload-file <PAYLOAD_FILE>>"
  | .replay => "replay [OPTIONS] --input <INPUT>"
  | .routes => "routes [OPTIONS]"
  | .help => "help [COMMAND]..."

def commonTexts : List String :=
  ["Verbose output", "Print help"]

def sections : Page → List String
  | .program =>
    [helpSection "Commands" [("decode", decode.about), ("replay", replay.about),
        ("routes", routes.about), ("help", help.about)],
      optionSection ([verboseOption, helpOption, ⟨"version", some 'V', false⟩].zip
        (commonTexts ++ ["Print version"]))]
  | .decode =>
    [optionSection (decodeOptions.zip (["Topic the message arrived on", "Payload text",
      "File holding the raw payload bytes", "Indent the output"] ++ commonTexts))]
  | .replay =>
    [optionSection (replayOptions.zip (
      ["Message file, one `\x7b\"payload\": ..., \"metadata\": \x7b...\x7d\x7d` per line",
        "Passes over the file", "Concurrent decode workers"] ++ commonTexts))]
  | .routes => [optionSection (routesOptions.zip commonTexts)]
  | .help => [helpSection "Arguments" [("[COMMAND]...", "Print help for the subcommand(s)")]]

def text (page : Page) : String :=
  "\n\n".intercalate
    (page.about :: ("Usage: " ++ programName ++ " " ++ page.usage) :: page.sections)

end Page

end Command
end GatewayTelemetry
