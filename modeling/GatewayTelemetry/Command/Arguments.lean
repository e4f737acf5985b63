/-!
# Reading arguments

An argument that starts with a hyphen holds options: one with a long name, `--name` or
`--name=value`, or a cluster of letters after one hyphen. In a cluster the first letter of an
option that takes a value ends the letters; the rest of the cluster is the value, without an equals
sign in front. A value that is not attached is the next argument, which may not start with a
hyphen unless it is a lone one. Nothing behind a request for help is read.
-/

namespace GatewayTelemetry
namespace Command

inductive UsageError where
  | noCommand
  | unknownCommand (name : String)
  | unknownOption (name : String)
  | extraArgument (argument : String)
  | repeatedOption (name : String)
  | needlessValue (name : String)
  | absentValue (name : String)
  | absentOption (name : String)
  | exclusiveOptions (first second : String)
  | badNumber (name value : String)
  deriving DecidableEq, Inhabited

structure OptionSpec where
  long : String
  short : Option Char
  takesValue : Bool
  deriving DecidableEq, Inhabited

/-- An option as it was given: its long name, and its value if it takes one. -/
structure Given where
  long : String
  value : Option String
  deriving DecidableEq, Inhabited

/-- The option that asks for help, which every command knows. -/
def helpOption : OptionSpec :=
  ⟨"help", some 'h', false⟩

def isGiven (given : List Given) (long : String) : Bool :=
  given.any fun each => each.long == long

/-- What the characters of an argument say. -/
inductive Shape where
  | endOfOptions
  | long (name : String) (value : Option String)
  | cluster (letters : List Char)
  | plain

/-- The shape of an argument; a lone hyphen is no option. -/
def Shape.ofArgument (argument : String) : Shape :=
  match argument.toList with
  | '-' :: '-' :: [] => .endOfOptions
  | '-' :: '-' :: text =>
    let name := String.ofList (text.takeWhile (· != '='))
    match text.dropWhile (· != '=') with
    | [] => .long name none
    | _ :: value => .long name (some (String.ofList value))
  | '-' :: [] => .plain
  | '-' :: letters => .cluster letters
  | _ => .plain

def isValue (argument : String) : Bool :=
  argument.toList.head? != some '-' || argument == "-"

/-- The value attached to a letter: what follows it, without an equals sign in front. -/
def attachedValue : List Char → String
  | '=' :: value => String.ofList value
  | value => String.ofList value

/-- Read a cluster; the second part is an option that still needs its value. -/
def readCluster (specs : List OptionSpec) :
    List Char → Except UsageError (List Given × Option OptionSpec)
  | [] => .ok ([], none)
  | letter :: letters =>
    match specs.find? fun spec => spec.short == some letter with
    | none => .error (.unknownOption (String.singleton letter))
    | some spec =>
      if spec.takesValue then
        if letters.isEmpty then .ok ([], some spec)
        else .ok ([⟨spec.long, some (attachedValue letters)⟩], none)
      else if spec = helpOption then .ok ([⟨spec.long, none⟩], none)
      else
        match readCluster specs letters with
        | .ok (given, open?) => .ok (⟨spec.long, none⟩ :: given, open?)
        | .error error => .error error

/-- Read an option by its long name; the second part is an option that still needs its value. -/
def readLong (specs : List OptionSpec) (name : String) (value : Option String) :
    Except UsageError (List Given × Option OptionSpec) :=
  match specs.find? fun spec => spec.long == name with
  | none => .error (.unknownOption name)
  | some spec =>
    match spec.takesValue, value with
    | true, some value => .ok ([⟨spec.long, some value⟩], none)
    | true, none => .ok ([], some spec)
    | false, some _ => .error (.needlessValue name)
    | false, none => .ok ([⟨spec.long, none⟩], none)

/-- Read one argument; the second part is an option that still needs its value. -/
def readArgument (specs : List OptionSpec) (argument : String) :
    Except UsageError (List Given × Option OptionSpec) :=
  match Shape.ofArgument argument with
  | .long name value => readLong specs name value
  | .cluster letters => readCluster specs letters
  | .endOfOptions => .ok ([], none)
  | .plain => .error (.extraArgument argument)

def readArguments (specs : List OptionSpec) : List String → Except UsageError (List Given)
  | [] => .ok []
  | argument :: arguments =>
    if argument = "--" then
      match arguments with
      | [] => .ok []
      | extra :: _ => .error (.extraArgument extra)
    else
      match readArgument specs argument with
      | .error error => .error error
      | .ok (given, none) =>
        if isGiven given helpOption.long then .ok given
        else do
          let later ← readArguments specs arguments
          .ok (given ++ later)
      | .ok (given, some spec) =>
        match arguments with
        | [] => .error (.absentValue spec.long)
        | value :: arguments =>
          if isValue value then do
            let later ← readArguments specs arguments
            .ok (given ++ ⟨spec.long, some value⟩ :: later)
          else .error (.absentValue spec.long)

def checkRepeated : List Given → Except UsageError Unit
  | [] => .ok ()
  | given :: later =>
    if later.any fun other => other.long == given.long then .error (.repeatedOption given.long)
    else checkRepeated later

def value? (given : List Given) (long : String) : Option String :=
  (given.find? fun each => each.long == long).bind (·.value)

end Command
end GatewayTelemetry
