import GatewayTelemetry.Pattern.Escape

/-!
# Bracketed sets in patterns

A bracketed set lists characters, ranges, escapes, named sets and further bracketed sets, and may
intersect or subtract what stands around an operator. How deep its constructs nest is reckoned
together with its characters: an item is no construct, and several items make one, as do an
operator with its sides and a pair of brackets.
-/

namespace GatewayTelemetry
namespace Pattern

def namedSet? (name : List Char) : Option CharSet :=
  if name = "alnum".toList then some (.union .asciiLetter .asciiDigit)
  else if name = "alpha".toList then some .asciiLetter
  else if name = "ascii".toList then some (.range '\x00' '\x7f')
  else if name = "blank".toList then some (.ofList ['\t', ' '])
  else if name = "cntrl".toList then some (.union (.range '\x00' '\x1f') (.single '\x7f'))
  else if name = "digit".toList then some .asciiDigit
  else if name = "graph".toList then some (.range '!' '~')
  else if name = "lower".toList then some (.range 'a' 'z')
  else if name = "print".toList then some (.range ' ' '~')
  else if name = "punct".toList then
    some ((CharSet.range '!' '~').minus (.union .asciiLetter .asciiDigit))
  else if name = "space".toList then some .asciiSpace
  else if name = "upper".toList then some (.range 'A' 'Z')
  else if name = "word".toList then some .asciiWord
  else if name = "xdigit".toList then
    some (.union .asciiDigit (.union (.range 'A' 'F') (.range 'a' 'f')))
  else none

/-- Whether a text starts with the sign of a negation, and the text after it. -/
def negation : List Char → Bool × List Char
  | '^' :: rest => (true, rest)
  | rest => (false, rest)

/-- Read a named set between colons and brackets, from behind its opening bracket: whether its
complement is meant, and the set. -/
def namedSet (text : List Char) : Option ((Bool × CharSet) × List Char) :=
  match text with
  | ':' :: rest =>
    let (negated, rest) := negation rest
    match rest.dropWhile (· != ':') with
    | ':' :: ']' :: after => do
      let set ← namedSet? (rest.takeWhile (· != ':'))
      some ((negated, set), after)
    | _ => none
  | _ => none

/-! ## Items and operators -/

/-- Items of a bracketed set that were read so far. -/
structure Items where
  set : CharSet
  count : Nat
  deepest : Nat

namespace Items

def none : Items :=
  ⟨.empty, 0, 0⟩

def add (items : Items) (set : CharSet) (depth : Nat) : Items :=
  ⟨items.set.union set, items.count + 1, max items.deepest depth⟩

def depth (items : Items) : Nat :=
  if items.count ≤ 1 then items.deepest else items.deepest + 1

end Items

inductive SetOperator where
  | inter
  | minus
  | symmetricDifference

def SetOperator.apply : SetOperator → CharSet → CharSet → CharSet
  | .inter, left, right => left.inter right
  | .minus, left, right => left.minus right
  | .symmetricDifference, left, right => left.symmetricDifference right

def setOperator? : List Char → Option (SetOperator × List Char)
  | '&' :: '&' :: rest => some (.inter, rest)
  | '-' :: '-' :: rest => some (.minus, rest)
  | '~' :: '~' :: rest => some (.symmetricDifference, rest)
  | _ => none

/-- The left side of an operator, with how deep it nests, waiting for the right side. -/
abbrev Pending :=
  Option (SetOperator × CharSet × Nat)

/-- The set of finished items together with what waits for it, and how deep both nest. -/
def Pending.apply (flags : Flags) (pending : Pending) (items : Items) : CharSet × Nat :=
  match pending with
  | some (operator, left, depth) =>
    (operator.apply (flags.withCase left) (flags.withCase items.set), max depth items.depth + 1)
  | none => (items.set, items.depth)

/-! ## Characters and ranges -/

def setItem (properties : Unicode.Properties) (flags : Flags) :
    List Char → Option (Escape × List Char)
  | [] => none
  | c :: text => if c = '\\' then escape properties flags text else some (.char c, text)

/-- The set of an item that stands alone; an assertion is none. -/
def Escape.toSet? (flags : Flags) : Escape → Option CharSet
  | .char c => flags.listed? c
  | .set chars => some chars
  | .assertion _ => none

def rangeSet? (flags : Flags) : Escape → Escape → Option CharSet
  | .char low, .char high => do
    let _ ← flags.listed? low
    let _ ← flags.listed? high
    if low ≤ high then some (.range low high) else none
  | _, _ => none

/-- The character after a hyphen that decides whether the hyphen makes a range. Blanks are passed
over where they are ignored, and so is the sign that opens a comment. -/
def afterHyphen? (flags : Flags) (text : List Char) : Option Char :=
  if flags.spaced then
    match text.dropWhile Text.isBlank with
    | '#' :: rest => (rest.dropWhile Text.isBlank).head?
    | rest => rest.head?
  else text.head?

/-- Read an item of a bracketed set, or two with a hyphen between them. A hyphen before the
closing bracket or before another hyphen is none of a range. -/
def setRange (properties : Unicode.Properties) (flags : Flags) (text : List Char) :
    Option (CharSet × List Char) := do
  let (low, rest) ← setItem properties flags text
  match flags.skip rest with
  | [] => none
  | '-' :: rest =>
    if afterHyphen? flags rest = some ']' ∨ afterHyphen? flags rest = some '-' then do
      let set ← low.toSet? flags
      some (set, '-' :: rest)
    else do
      let (high, rest) ← setItem properties flags (flags.skip rest)
      let set ← rangeSet? flags low high
      some (set, rest)
  | rest => do
    let set ← low.toSet? flags
    some (set, rest)

/-! ## Brackets -/

section

variable (properties : Unicode.Properties)

def setItems (inner : List Char → Option ((CharSet × Nat) × List Char)) (flags : Flags) :
    Nat → Pending → Items → List Char → Option ((CharSet × Nat) × List Char)
  | 0, _, _, _ => none
  | bound + 1, pending, items, text =>
    match flags.skip text with
    | [] => none
    | c :: rest =>
      if c = ']' then some (pending.apply flags items, rest)
      else if c = '[' then
        match namedSet rest with
        | some ((negated, set), rest) => do
          let set ← flags.finish? negated set
          setItems inner flags bound pending (items.add set 0) rest
        | none => do
          let ((set, depth), rest) ← inner rest
          setItems inner flags bound pending (items.add set depth) rest
      else
        match setOperator? (c :: rest) with
        | some (operator, rest) =>
          setItems inner flags bound (some (operator, pending.apply flags items)) .none rest
        | none => do
          let (set, rest) ← setRange properties flags (c :: rest)
          setItems inner flags bound pending (items.add set 0) rest

/-- Hyphens at the front of a bracketed set stand for themselves. -/
def leadingHyphens (flags : Flags) : Nat → Items → List Char → Items × List Char
  | 0, items, text => (items, text)
  | bound + 1, items, text =>
    match flags.skip text with
    | '-' :: rest => leadingHyphens flags bound (items.add (.single '-') 0) rest
    | rest => (items, rest)

/-- Read what stands for itself at the front of a bracketed set: hyphens, or a closing bracket. -/
def frontItems (flags : Flags) (text : List Char) : Items × List Char :=
  match leadingHyphens flags (text.length + 1) .none text with
  | (⟨set, 0, deepest⟩, ']' :: rest) => (Items.add ⟨set, 0, deepest⟩ (.single ']') 0, rest)
  | (items, text) => (items, text)

/-- Read a bracketed set and how deep it nests, from behind its opening bracket; sets nest up to a
depth. -/
def bracket (flags : Flags) : Nat → List Char → Option ((CharSet × Nat) × List Char)
  | 0, _ => none
  | depth + 1, text => do
    let (negated, text) := negation (flags.skip text)
    let (items, text) := frontItems flags text
    let ((set, nested), rest) ←
      setItems properties (bracket flags depth) flags (text.length + 1) none items text
    let set ← flags.finish? negated set
    some ((set, nested + 1), rest)

end

end Pattern
end GatewayTelemetry
