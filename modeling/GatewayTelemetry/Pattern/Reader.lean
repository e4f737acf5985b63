import GatewayTelemetry.Pattern.Bracket

/-!
# Reading patterns

A pattern is a list of alternatives, each a sequence of pieces, each piece followed by any number
of repetition operators. Groups nest; capturing groups are numbered from one in the order of their
opening parentheses. A flag set inside a group holds to the end of that group.

A text that breaks these rules is no pattern, and nothing is said about why. Neither is one in
which constructs nest too deep. A construct is a group, a repetition, a pair of brackets, two
pieces or more in a sequence, or two alternatives or more.
-/

namespace GatewayTelemetry
namespace Pattern

structure Written where
  pattern : Pattern
  depth : Nat

namespace Written

def plain (pattern : Pattern) : Written :=
  ⟨pattern, 0⟩

def deepest (written : List Written) : Nat :=
  (written.map depth).foldl max 0

def sequence : List Written → Written
  | [] => plain .empty
  | [only] => only
  | pieces => ⟨Pattern.sequence (pieces.map pattern), deepest pieces + 1⟩

def choice : List Written → Written
  | [only] => only
  | alternatives => ⟨Pattern.choice (alternatives.map pattern), deepest alternatives + 1⟩

end Written

/-- What the reader knows at a place: the flags in force, the number of capturing groups opened,
and their names. -/
structure Scope where
  flags : Flags
  groups : Nat
  names : List (List Char)

abbrev PartReader (α : Type) :=
  Scope → List Char → Option (α × Scope × List Char)

/-! ## Repetition operators -/

def countDigits (flags : Flags) : Nat → Nat → List Char → Nat × List Char
  | 0, count, text => (count, text)
  | bound + 1, count, text =>
    match text with
    | [] => (count, [])
    | c :: rest =>
      if c.isDigit then
        countDigits flags bound (count * 10 + (c.toNat - '0'.toNat)) (flags.skip rest)
      else (count, c :: rest)

/-- Read a count below `2 ^ 32`, which may stand between blanks. -/
def count (flags : Flags) (text : List Char) : Option (Nat × List Char) :=
  match text.dropWhile Text.isBlank with
  | [] => none
  | c :: rest =>
    if c.isDigit then
      let (count, rest) := countDigits flags (rest.length + 1) 0 (c :: rest)
      if count < UInt32.size then some (count, rest.dropWhile Text.isBlank) else none
    else none

def limits (flags : Flags) (text : List Char) : Option ((Nat × Option Nat) × List Char) := do
  let (least, rest) ← count flags (flags.skip text)
  match flags.skip rest with
  | '\x7d' :: rest => some ((least, some least), rest)
  | ',' :: rest =>
    match flags.skip rest with
    | '\x7d' :: rest => some ((least, none), rest)
    | rest => do
      let (most, rest) ← count flags rest
      match flags.skip rest with
      | '\x7d' :: rest => if least ≤ most then some ((least, some most), rest) else none
      | _ => none
  | _ => none

/-- A question mark after an operator makes it lazy. -/
def lazyMark : List Char → Bool × List Char
  | '?' :: rest => (true, rest)
  | rest => (false, rest)

def Written.rounds (flags : Flags) (least : Nat) (most : Option Nat) (isLazy : Bool)
    (body : Written) : Written :=
  ⟨flags.rounds least most isLazy body.pattern, body.depth + 1⟩

def operators (flags : Flags) : Nat → Written → List Char → Option (Written × List Char)
  | 0, _, _ => none
  | bound + 1, body, text =>
    match flags.skip text with
    | [] => some (body, [])
    | c :: rest =>
      if c = '*' then
        let (isLazy, rest) := lazyMark rest
        operators flags bound (body.rounds flags 0 none isLazy) rest
      else if c = '+' then
        let (isLazy, rest) := lazyMark rest
        operators flags bound (body.rounds flags 1 none isLazy) rest
      else if c = '?' then
        let (isLazy, rest) := lazyMark rest
        operators flags bound (body.rounds flags 0 (some 1) isLazy) rest
      else if c = '\x7b' then do
        let ((least, most), rest) ← limits flags rest
        let (isLazy, rest) := lazyMark (flags.skip rest)
        operators flags bound (body.rounds flags least most isLazy) rest
      else some (body, c :: rest)

/-! ## Groups -/

/-- Read flag letters up to a colon or closing parenthesis, which is left; letters after a hyphen
are cleared. No letter stands twice, and one follows the hyphen. -/
def flagLetters (flags : Flags) (seen : List Char) : List Char → Option (Flags × List Char)
  | [] => none
  | c :: rest =>
    if c = ':' ∨ c = ')' then
      if seen.head? = some '-' then none else some (flags, c :: rest)
    else if seen.contains c then none
    else if c = '-' then flagLetters flags (c :: seen) rest
    else
      match flags.change c (!seen.contains '-') with
      | some flags => flagLetters flags (c :: seen) rest
      | none => none

/-- A character that may start the name of a group: an underscore or a letter. -/
def isNameStart (c : Char) : Bool :=
  c == '_' || Unicode.isLetter c

def isNamePart (c : Char) : Bool :=
  isNameStart c || Unicode.isNumber c || c == '.' || c == '[' || c == ']'

/-- Read the name of a group through the closing angle bracket; no two groups share a name. -/
def groupName (names : List (List Char)) (text : List Char) : Option (List Char × List Char) :=
  let name := text.takeWhile isNamePart
  match text.dropWhile isNamePart with
  | '>' :: rest =>
    if name.head?.any isNameStart ∧ ¬names.contains name then some (name, rest) else none
  | _ => none

inductive Opening where
  | capturing (name : Option (List Char))
  | plain (flags : Flags)
  /-- Flags for the rest of the enclosing group. -/
  | setting (flags : Flags)

def opening (scope : Scope) (text : List Char) : Option (Opening × List Char) :=
  match text with
  | '?' :: '=' :: _ => none
  | '?' :: '!' :: _ => none
  | '?' :: '<' :: '=' :: _ => none
  | '?' :: '<' :: '!' :: _ => none
  | '?' :: 'P' :: '<' :: rest =>
    (groupName scope.names rest).map fun (name, rest) => (.capturing (some name), rest)
  | '?' :: '<' :: rest =>
    (groupName scope.names rest).map fun (name, rest) => (.capturing (some name), rest)
  | '?' :: rest =>
    match flagLetters scope.flags [] rest with
    | some (flags, ':' :: after) => some (.plain flags, after)
    | some (flags, ')' :: after) =>
      if rest.head? = some ')' then none else some (.setting flags, after)
    | _ => none
  | text => some (.capturing none, text)

/-- Read the inside of a group and its closing parenthesis; the flags outside come back. -/
def enclosed (inner : PartReader Written) (scope : Scope) (flags : Flags) (text : List Char) :
    Option (Written × Scope × List Char) := do
  let (body, after, rest) ← inner { scope with flags } text
  match rest with
  | ')' :: rest => some (⟨body.pattern, body.depth + 1⟩, { after with flags := scope.flags }, rest)
  | _ => none

/-- A piece, or a flag setting, which stands among the pieces of a sequence but takes no
repetition operator. -/
inductive Piece where
  | piece (written : Written)
  | setting

def parenthesis (inner : PartReader Written) : PartReader Piece := fun scope text => do
  let (opened, rest) ← opening scope (scope.flags.skip text)
  match opened with
  | .setting flags => some (.setting, { scope with flags }, rest)
  | .plain flags => do
    let (body, scope, rest) ← enclosed inner scope flags rest
    some (.piece body, scope, rest)
  | .capturing name => do
    let number := scope.groups + 1
    let inside := { scope with groups := number, names := name.toList ++ scope.names }
    let (body, scope, rest) ← enclosed inner inside scope.flags rest
    some (.piece ⟨.group number body.pattern, body.depth⟩, scope, rest)

/-! ## Pieces, sequences and alternatives -/

/-- A character of which an operator starts, so that it is no piece. -/
def isOperator (c : Char) : Bool :=
  c == '*' || c == '+' || c == '?' || c == '\x7b'

section

variable (properties : Unicode.Properties)

def piece (inner : PartReader Written) (c : Char) : PartReader Piece := fun scope text =>
  let flags := scope.flags
  if c = '(' then parenthesis inner scope text
  else if c = '[' then do
    let ((set, depth), rest) ← bracket properties flags (text.length + 1) text
    some (.piece ⟨flags.ofSet set, depth⟩, scope, rest)
  else if c = '\\' then do
    let (escaped, rest) ← escape properties flags text
    some (.piece (.plain (escaped.toPattern flags)), scope, rest)
  else if c = '.' then do
    let point ← flags.point?
    some (.piece (.plain point), scope, text)
  else if c = '^' then some (.piece (.plain (.assert flags.start)), scope, text)
  else if c = '$' then some (.piece (.plain (.assert flags.finish)), scope, text)
  else if isOperator c then none
  else some (.piece (.plain (flags.letter c)), scope, text)

/-- Read pieces up to a bar, a closing parenthesis or the end; the bound is on their number and that
of the operators after each. -/
def pieces (inner : PartReader Written) : Nat → PartReader (List Written)
  | 0, _, _ => none
  | bound + 1, scope, text =>
    match scope.flags.skip text with
    | [] => some ([], scope, [])
    | c :: rest =>
      if c = '|' ∨ c = ')' then some ([], scope, c :: rest)
      else do
        let (found, scope, rest) ← piece properties inner c scope rest
        let (first, rest) ←
          match found with
          | .setting => some (.plain .empty, rest)
          | .piece body => operators scope.flags bound body rest
        let (others, scope, rest) ← pieces inner bound scope rest
        some (first :: others, scope, rest)

/-- Read alternatives up to a closing parenthesis or the end; the bound is on their number. -/
def alternatives (inner : PartReader Written) : Nat → PartReader (List Written)
  | 0, _, _ => none
  | bound + 1, scope, text => do
    let (sequence, scope, rest) ← pieces properties inner (text.length + 1) scope text
    match rest with
    | '|' :: rest => do
      let (others, scope, rest) ← alternatives inner bound scope rest
      some (.sequence sequence :: others, scope, rest)
    | rest => some ([.sequence sequence], scope, rest)

/-- Read a pattern or the inside of a group, in which groups nest up to a depth. -/
def body : Nat → PartReader Written
  | 0 => fun _ _ => none
  | depth + 1 => fun scope text => do
    let (written, scope, rest) ←
      alternatives properties (body depth) (text.length + 1) scope text
    some (.choice written, scope, rest)

def depthLimit : Nat :=
  250

def parse? (text : String) : Option Pattern :=
  match body properties (text.length + 1) ⟨Flags.initial, 0, []⟩ text.toList with
  | some (written, _, []) => if written.depth ≤ depthLimit then some written.pattern else none
  | _ => none

end

end Pattern
end GatewayTelemetry
