import Mathlib.Computability.Language
import Mathlib.Data.Char
import Mathlib.Data.Fintype.Basic
import Mathlib.Order.Interval.Set.Defs
import GatewayTelemetry.Proofs.Pattern.Reading

/-!
# Expressions and their languages

An expression is what a pattern is built of as long as it has no assertions and sets no flags:
characters, the point, sets, groups, repetitions, sequences and alternatives. Each has a text, which
is how it is written, and a language, which is the words that it stands for; which characters have a
property is what a table says. The language says nothing about how words are searched for, so
whether an operator is lazy and whether a group captures makes no difference to it.

What is written next to each other may be read as something else. An expression carries the proof
that this does not happen to it, so its text can be taken apart in no other way.
-/

namespace GatewayTelemetry
namespace Pattern

/-! ## Characters -/

/-- The letters that stand for control characters behind a backslash. -/
def controlLetters : List (Char × Char) :=
  [('a', '\x07'), ('f', '\x0c'), ('t', '\t'), ('n', '\n'), ('r', '\r'), ('v', '\x0b')]

/-- The letters that announce a code point behind a backslash, each with the number of its digits if
they do not stand between braces. -/
def codeLetters : List (Char × Nat) :=
  [('x', 2), ('u', 4), ('U', 8)]

def hexNumber? (digits : List Char) : Option Nat :=
  digits.foldlM (fun number digit => (Text.hexValue? digit).map (number * 16 + ·)) 0

/-- What may stand behind a backslash for a character. -/
inductive Spells : List Char → Char → Prop
  /-- A sign of ASCII for itself. -/
  | sign {c : Char} (isAscii : c.toNat < 0x80) (isSign : c.isAlphanum = false)
      (noEdge : c ≠ '<' ∧ c ≠ '>') : Spells [c] c
  /-- A letter for a control character. -/
  | control {letter c : Char} (among : (letter, c) ∈ controlLetters) : Spells [letter] c
  /-- A code point with as many digits as its letter asks for. -/
  | code {letter c : Char} {digits : List Char} (among : (letter, digits.length) ∈ codeLetters)
      (number : hexNumber? digits = some c.toNat) : Spells (letter :: digits) c
  /-- A code point with any number of digits between braces. -/
  | braced {letter c : Char} {count : Nat} {digits : List Char}
      (among : (letter, count) ∈ codeLetters) (filled : digits ≠ [])
      (number : hexNumber? digits = some c.toNat) :
      Spells (letter :: '\x7b' :: digits ++ ['\x7d']) c

/-! ## Classes -/

def caret (isNegated : Bool) : List Char :=
  if isNegated then ['^'] else []

def negateIf (isNegated : Bool) (members : Set Char) : Set Char :=
  if isNegated then membersᶜ else members

/-- A class of characters that a letter behind a backslash stands for. -/
inductive LetterClass where
  | digit
  | space
  | word
  deriving DecidableEq

namespace LetterClass

/-- The letter of a class; for the other characters it is a capital. -/
def letter (isNegated : Bool) : LetterClass → Char
  | digit => if isNegated then 'D' else 'd'
  | space => if isNegated then 'S' else 's'
  | word => if isNegated then 'W' else 'w'

def members : LetterClass → Set Char
  | digit => {c | Unicode.CodeRange.anyContains Unicode.digits c.toNat = true}
  | space => {c | Text.isBlank c = true}
  | word => {c | Unicode.isWord c = true}

end LetterClass

inductive PropertyName where
  | letter (c : Char) (isName : c ≠ '\x7b' ∧ c ≠ '\\')
  | braced (name : List Char) (noEnd : '\x7d' ∉ name)

namespace PropertyName

/-- The name, which is looked up. -/
def name : PropertyName → List Char
  | letter c _ => [c]
  | braced name _ => name

/-- How a property is written behind a backslash; for the other characters there is a capital. -/
def text (isNegated : Bool) (property : PropertyName) : List Char :=
  (if isNegated then 'P' else 'p') ::
    match property with
    | letter c _ => [c]
    | braced name _ => '\x7b' :: name ++ ['\x7d']

/-- The characters with a property, if the table knows it. -/
def members (properties : Unicode.Properties) (property : PropertyName) : Set Char :=
  {c | (properties.find? property.name).any (Unicode.CodeRange.anyContains · c.toNat) = true}

end PropertyName

def asciiLetters : Set Char :=
  Set.Icc 'A' 'Z' ∪ Set.Icc 'a' 'z'

def asciiDigits : Set Char :=
  Set.Icc '0' '9'

/-- A class of characters with a name of its own inside brackets. -/
inductive NamedClass where
  | alnum
  | alpha
  | ascii
  | blank
  | cntrl
  | digit
  | graph
  | lower
  | print
  | punct
  | space
  | upper
  | word
  | xdigit
  deriving DecidableEq

namespace NamedClass

instance : Fintype NamedClass :=
  Fintype.ofList [alnum, alpha, ascii, blank, cntrl, digit, graph, lower, print, punct, space,
    upper, word, xdigit] fun named => by cases named <;> decide

def name : NamedClass → String
  | alnum => "alnum"
  | alpha => "alpha"
  | ascii => "ascii"
  | blank => "blank"
  | cntrl => "cntrl"
  | digit => "digit"
  | graph => "graph"
  | lower => "lower"
  | print => "print"
  | punct => "punct"
  | space => "space"
  | upper => "upper"
  | word => "word"
  | xdigit => "xdigit"

/-- The characters of a class; all of them are characters of ASCII. -/
def members : NamedClass → Set Char
  | alnum => asciiLetters ∪ asciiDigits
  | alpha => asciiLetters
  | ascii => Set.Icc '\x00' '\x7f'
  | blank => {'\t', ' '}
  | cntrl => Set.Icc '\x00' '\x1f' ∪ {'\x7f'}
  | digit => asciiDigits
  | graph => Set.Icc '!' '~'
  | lower => Set.Icc 'a' 'z'
  | print => Set.Icc ' ' '~'
  | punct => Set.Icc '!' '~' \ (asciiLetters ∪ asciiDigits)
  | space => Set.Icc '\t' '\r' ∪ {' '}
  | upper => Set.Icc 'A' 'Z'
  | word => asciiLetters ∪ (asciiDigits ∪ {'_'})
  | xdigit => asciiDigits ∪ (Set.Icc 'A' 'F' ∪ Set.Icc 'a' 'f')

def text (isNegated : Bool) (named : NamedClass) : List Char :=
  ':' :: caret isNegated ++ named.name.toList ++ [':', ']']

end NamedClass

/-! ## Sets in brackets -/

/-- A character inside brackets: an item, or one end of a range. -/
inductive SetChar where
  | plain (c : Char)
  | escaped (text : List Char) (c : Char) (spells : Spells text c)

namespace SetChar

def text : SetChar → List Char
  | plain c => [c]
  | escaped text _ _ => '\\' :: text

def char : SetChar → Char
  | plain c => c
  | escaped _ c _ => c

/-- Before some text a character starts an item: it is no bracket, and no operator with what
follows. -/
def StartsItem (after : List Char) : SetChar → Prop
  | plain c => c ∉ ['[', ']', '\\'] ∧ (c ∈ ['&', '-', '~'] → after.head? ≠ some c)
  | escaped _ _ _ => True

/-- A character ends a range: behind the hyphen it is no hyphen or bracket again. -/
def EndsRange : SetChar → Prop
  | plain c => c ∉ ['-', ']', '\\']
  | escaped _ _ _ => True

instance (after : List Char) (c : SetChar) : Decidable (c.StartsItem after) :=
  match c with
  | plain _ => inferInstanceAs (Decidable (_ ∧ _))
  | escaped _ _ _ => instDecidableTrue

instance (c : SetChar) : Decidable c.EndsRange :=
  match c with
  | plain _ => inferInstanceAs (Decidable (¬_))
  | escaped _ _ _ => instDecidableTrue

end SetChar

/-- A text makes a range with what stands before it. -/
def MakesRange (text : List Char) : Prop :=
  ∃ after, text = '-' :: after ∧ after.head? ≠ some '-' ∧ after.head? ≠ some ']'

instance (text : List Char) : Decidable (MakesRange text) :=
  decidable_of_iff (text.head? = some '-' ∧ text.tail.head? ≠ some '-' ∧ text.tail.head? ≠ some ']')
    ⟨fun ⟨first, noHyphen, noBracket⟩ =>
        ⟨text.tail, (List.cons_head?_tail first).symm, noHyphen, noBracket⟩,
      fun ⟨_, split, noHyphen, noBracket⟩ => split ▸ ⟨rfl, noHyphen, noBracket⟩⟩

namespace SetOperator

/-- The sign of an operator, of which two make the operator. -/
def sign : SetOperator → Char
  | inter => '&'
  | minus => '-'
  | symmetricDifference => '~'

def members : SetOperator → Set Char → Set Char → Set Char
  | inter, left, right => left ∩ right
  | minus, left, right => left \ right
  | symmetricDifference, left, right => left \ right ∪ right \ left

end SetOperator

/-- What may stand at the front of a set and would have another meaning further on: a closing
bracket, or any number of hyphens. -/
inductive SetFront where
  | bracket
  | hyphens (count : Nat)

namespace SetFront

def text : SetFront → List Char
  | bracket => [']']
  | hyphens count => List.replicate count '-'

def members : SetFront → Set Char
  | bracket => {']'}
  | hyphens count => {c | c ∈ List.replicate count '-'}

/-- A front ends before a text, which goes on with other things than the front has. -/
def EndsBefore (isNegated : Bool) (after : List Char) : SetFront → Prop
  | bracket => True
  | hyphens 0 => after.head? ≠ some '-' ∧ after.head? ≠ some ']' ∧
      (isNegated = false → after.head? ≠ some '^')
  | hyphens (_ + 1) => after.head? ≠ some '-'

instance (isNegated : Bool) (after : List Char) (front : SetFront) :
    Decidable (front.EndsBefore isNegated after) :=
  match front with
  | bracket => instDecidableTrue
  | hyphens 0 => inferInstanceAs (Decidable (_ ∧ _ ∧ (_ → _)))
  | hyphens (_ + 1) => inferInstanceAs (Decidable (_ ≠ _))

end SetFront

inductive SetItems where
  | close
  | char (c : SetChar) (rest : SetItems)
  | range (low high : SetChar) (rest : SetItems)
  | letterClass (isNegated : Bool) (letters : LetterClass) (rest : SetItems)
  | property (isNegated : Bool) (name : PropertyName) (rest : SetItems)
  | namedClass (isNegated : Bool) (named : NamedClass) (rest : SetItems)
  | nested (isNegated : Bool) (front : SetFront) (inner rest : SetItems)
  /-- An operator between what stands before it and the items up to the next one. -/
  | operation (operator : SetOperator) (rest : SetItems)

namespace SetItems

def text : SetItems → List Char
  | close => [']']
  | char c rest => c.text ++ rest.text
  | range low high rest => low.text ++ '-' :: high.text ++ rest.text
  | letterClass isNegated letters rest => '\\' :: letters.letter isNegated :: rest.text
  | property isNegated name rest => '\\' :: name.text isNegated ++ rest.text
  | namedClass isNegated named rest => '[' :: named.text isNegated ++ rest.text
  | nested isNegated front inner rest =>
    '[' :: caret isNegated ++ front.text ++ inner.text ++ rest.text
  | operation operator rest => operator.sign :: operator.sign :: rest.text

/-- What operators make of some characters; each applies to all that stands before it. -/
def combine (first : Set Char) (others : List (SetOperator × Set Char)) : Set Char :=
  others.foldl (fun left (operator, right) => operator.members left right) first

/-- Characters that stand before the first operator with others. -/
def listed (members : Set Char) (sides : Set Char × List (SetOperator × Set Char)) :
    Set Char × List (SetOperator × Set Char) :=
  (members ∪ sides.1, sides.2)

/-- The characters of the items up to the first operator, and the operators, each with the
characters of the items up to the next one. -/
def sides (properties : Unicode.Properties) :
    SetItems → Set Char × List (SetOperator × Set Char)
  | close => (∅, [])
  | char c rest => listed {c.char} (rest.sides properties)
  | range low high rest => listed (Set.Icc low.char high.char) (rest.sides properties)
  | letterClass isNegated letters rest =>
    listed (negateIf isNegated letters.members) (rest.sides properties)
  | property isNegated name rest =>
    listed (negateIf isNegated (name.members properties)) (rest.sides properties)
  | namedClass isNegated named rest =>
    listed (negateIf isNegated named.members) (rest.sides properties)
  | nested isNegated front inner rest =>
    let (first, others) := inner.sides properties
    listed (negateIf isNegated (combine (front.members ∪ first) others)) (rest.sides properties)
  | operation operator rest =>
    let (first, others) := rest.sides properties
    (∅, (operator, first) :: others)

/-- Each item is read as what it is, not as something else with what follows. -/
def IsReadable : SetItems → Prop
  | close => True
  | char c rest => c.StartsItem rest.text ∧ ¬MakesRange rest.text ∧ rest.IsReadable
  | range low high rest =>
    low.StartsItem ('-' :: high.text) ∧ high.EndsRange ∧ rest.IsReadable
  | letterClass _ _ rest => ¬MakesRange rest.text ∧ rest.IsReadable
  | property _ _ rest => ¬MakesRange rest.text ∧ rest.IsReadable
  | namedClass _ _ rest => rest.IsReadable
  | nested isNegated front inner rest =>
    front.EndsBefore isNegated inner.text ∧
      (∀ negated named, ¬NamedClass.text negated named <+:
        caret isNegated ++ front.text ++ inner.text ++ rest.text) ∧
      inner.IsReadable ∧ rest.IsReadable
  | operation _ rest => rest.IsReadable

instance instDecidableIsReadable : (items : SetItems) → Decidable items.IsReadable
  | close => instDecidableTrue
  | char _ rest =>
    have := instDecidableIsReadable rest
    inferInstanceAs (Decidable (_ ∧ _ ∧ _))
  | range _ _ rest =>
    have := instDecidableIsReadable rest
    inferInstanceAs (Decidable (_ ∧ _ ∧ _))
  | letterClass _ _ rest =>
    have := instDecidableIsReadable rest
    inferInstanceAs (Decidable (_ ∧ _))
  | property _ _ rest =>
    have := instDecidableIsReadable rest
    inferInstanceAs (Decidable (_ ∧ _))
  | namedClass _ _ rest => instDecidableIsReadable rest
  | nested _ _ inner rest =>
    have := instDecidableIsReadable inner
    have := instDecidableIsReadable rest
    inferInstanceAs (Decidable (_ ∧ _ ∧ _ ∧ _))
  | operation _ rest => instDecidableIsReadable rest

end SetItems

structure BracketSet where
  isNegated : Bool
  front : SetFront
  items : SetItems
  endsBefore : front.EndsBefore isNegated items.text
  isReadable : items.IsReadable

namespace BracketSet

def text (set : BracketSet) : List Char :=
  '[' :: caret set.isNegated ++ set.front.text ++ set.items.text

def members (properties : Unicode.Properties) (set : BracketSet) : Set Char :=
  negateIf set.isNegated
    (SetItems.combine (set.front.members ∪ (set.items.sides properties).1)
      (set.items.sides properties).2)

end BracketSet

/-! ## Repetitions -/

/-- A count in a repetition, which may stand between blanks. -/
structure Count where
  before : List Char
  digits : List Char
  after : List Char
  blankBefore : ∀ c ∈ before, Text.isBlank c = true
  isNumber : ∀ c ∈ digits, c.isDigit = true
  filled : digits ≠ []
  blankAfter : ∀ c ∈ after, Text.isBlank c = true

namespace Count

def text (count : Count) : List Char :=
  count.before ++ count.digits ++ count.after

def number (count : Count) : Nat :=
  Nat.ofDigitChars 10 count.digits 0

end Count

inductive Repetition where
  | star
  | plus
  | optional
  | exactly (count : Count)
  | atLeast (count : Count)
  | between (least most : Count)

namespace Repetition

def text : Repetition → List Char
  | star => ['*']
  | plus => ['+']
  | optional => ['?']
  | exactly count => '\x7b' :: count.text ++ ['\x7d']
  | atLeast count => '\x7b' :: count.text ++ [',', '\x7d']
  | between least most => '\x7b' :: least.text ++ ',' :: most.text ++ ['\x7d']

def least : Repetition → Nat
  | star => 0
  | plus => 1
  | optional => 0
  | exactly count => count.number
  | atLeast count => count.number
  | between least _ => least.number

def most : Repetition → Option Nat
  | star => none
  | plus => none
  | optional => some 1
  | exactly count => some count.number
  | atLeast _ => none
  | between _ most => some most.number

end Repetition

/-- The words of a language one behind the other, at least and at most so many of them. -/
def roundsOf (least : Nat) (most : Option Nat) (language : Language Char) : Language Char :=
  {word | ∃ count, least ≤ count ∧ (∀ limit, most = some limit → count ≤ limit) ∧
    word ∈ language ^ count}

structure Operator where
  repetition : Repetition
  isLazy : Bool

namespace Operator

def text (operator : Operator) : List Char :=
  operator.repetition.text ++ if operator.isLazy then ['?'] else []

def language (operator : Operator) (body : Language Char) : Language Char :=
  roundsOf operator.repetition.least operator.repetition.most body

/-- An operator may stand behind another one: a question mark would make that one lazy. -/
def MayFollow (operator before : Operator) : Prop :=
  before.isLazy = true ∨ operator.repetition ≠ .optional

end Operator

structure Operators where
  list : List Operator
  /-- No operator is read as a part of the one before it. -/
  isChain : list.IsChain fun before operator => operator.MayFollow before

namespace Operators

def text (operators : Operators) : List Char :=
  operators.list.flatMap Operator.text

def language (operators : Operators) (body : Language Char) : Language Char :=
  operators.list.foldl (fun language operator => operator.language language) body

end Operators

/-! ## Expressions -/

inductive GroupOpening where
  | numbered
  /-- A group that captures and has a name, which can be written in two ways. -/
  | named (isShort : Bool) (name : List Char) (noEnd : '>' ∉ name)
  | plain

def GroupOpening.text : GroupOpening → List Char
  | numbered => ['(']
  | named isShort name _ =>
    (if isShort then ['(', '?', '<'] else ['(', '?', 'P', '<']) ++ name ++ ['>']
  | plain => ['(', '?', ':']

mutual

inductive Atom where
  | plain (c : Char) (isPlain : Pattern.isPlain c = true)
  | escaped (text : List Char) (c : Char) (spells : Spells text c)
  | point
  | letterClass (isNegated : Bool) (letters : LetterClass)
  | property (isNegated : Bool) (name : PropertyName)
  | set (set : BracketSet)
  | group (opening : GroupOpening) (body : Expression)

/-- Atoms with their operators, one behind the other. -/
inductive Branch where
  | empty
  | next (atom : Atom) (operators : Operators) (rest : Branch)

inductive Expression where
  | only (branch : Branch)
  | either (branch : Branch) (others : Expression)

end

mutual

def Atom.text : Atom → List Char
  | .plain c _ => [c]
  | .escaped text _ _ => '\\' :: text
  | .point => ['.']
  | .letterClass isNegated letters => ['\\', letters.letter isNegated]
  | .property isNegated name => '\\' :: name.text isNegated
  | .set set => set.text
  | .group opening body => opening.text ++ body.text ++ [')']

def Branch.text : Branch → List Char
  | .empty => []
  | .next atom operators rest => atom.text ++ operators.text ++ rest.text

def Expression.text : Expression → List Char
  | .only branch => branch.text
  | .either branch others => branch.text ++ '|' :: others.text

end

def Expression.inParentheses (expression : Expression) : String :=
  "(" ++ String.ofList expression.text ++ ")"

def oneOf (members : Set Char) : Language Char :=
  {word | ∃ c ∈ members, word = [c]}

mutual

def Atom.language (properties : Unicode.Properties) : Atom → Language Char
  | .plain c _ => oneOf {c}
  | .escaped _ c _ => oneOf {c}
  | .point => oneOf {c | c ≠ '\n'}
  | .letterClass isNegated letters => oneOf (negateIf isNegated letters.members)
  | .property isNegated name => oneOf (negateIf isNegated (name.members properties))
  | .set set => oneOf (set.members properties)
  | .group _ body => body.language properties

def Branch.language (properties : Unicode.Properties) : Branch → Language Char
  | .empty => 1
  | .next atom operators rest =>
    operators.language (atom.language properties) * rest.language properties

def Expression.language (properties : Unicode.Properties) : Expression → Language Char
  | .only branch => branch.language properties
  | .either branch others => branch.language properties + others.language properties

end

end Pattern
end GatewayTelemetry
