import GatewayTelemetry.Json.Skip

/-!
# Documents of a given shape

Readers of structures check the shape while they read, so the first problem in reading order is
the one reported. A problem with the content of an array or object is reported where that array or
object ends, if its end is all that is left, and otherwise where its content was read.
-/

namespace GatewayTelemetry
namespace Json

def closeObject (text : List Char) : List Char :=
  match skipSpace text with
  | '\x7d' :: rest => rest
  | rest => rest

/-- The text after the closing bracket, or after a comma and blanks, if that is next. -/
def closeList (text : List Char) : List Char :=
  match skipSpace text with
  | ']' :: rest => rest
  | ',' :: rest => skipSpace rest
  | rest => rest

def Fault.inObject (reason : Reason) (text : List Char) : Fault :=
  .here reason (closeObject text)

def Fault.inList (reason : Reason) (text : List Char) : Fault :=
  .here reason (closeList text)

/-- Refuse the value at the front of the text, whose kind is not the expected one. A scalar is
read first, and what is wrong with it counts. -/
def wrongKind {α : Type} (expected : String) (text : List Char) : Except Fault α :=
  match skipSpace text with
  | [] => .error (.next .endInValue [])
  | c :: rest =>
    if c = '[' then .error (.here (.wrongKind .sequence expected) (c :: rest))
    else if c = '\x7b' then .error (.here (.wrongKind .map expected) (c :: rest))
    else do
      let (found, rest) ← scalar (c :: rest)
      .error (.here (.wrongKind found.kind expected) rest)

def expectString (expected : String) : Reader String := fun text =>
  match skipSpace text with
  | '"' :: rest => string rest
  | rest => wrongKind expected rest

/-- Read the members of an object through its closing brace, each changing a state according to
its name; the bound is on their number. -/
def fields {σ : Type} (field : σ → String → Reader σ) : Nat → Bool → σ → Reader σ
  | 0, _, _, text => .error (.next .endInObject text)
  | bound + 1, first, state, text => do
    let (found, text) ← nextName first text
    match found with
    | none => .ok (state, text)
    | some name =>
      let (state, text) ← field state name text
      fields field bound false state text

def endOfList (text : List Char) : Except Fault (List Char) :=
  match skipSpace text with
  | [] => .error (.next .endInList [])
  | c :: rest =>
    if c = ']' then .ok rest
    else if c = ',' then
      match skipSpace rest with
      | ']' :: rest => .error (.next .trailingComma (']' :: rest))
      | rest => .error (.next .trailingText rest)
    else .error (.next .trailingText (c :: rest))

end Json
end GatewayTelemetry
