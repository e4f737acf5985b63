import GatewayTelemetry.Pattern.Reader

/-!
# Reading letters

Under the flags at the start of a pattern nothing is skipped, and a character that is no sign of the
pattern language is read as itself. A piece ends where no operator follows.
-/

namespace GatewayTelemetry
namespace Pattern

/-- The characters that do not stand for themselves outside brackets. -/
def signs : List Char :=
  ['*', '+', '?', '\x7b', '(', ')', '[', '\\', '.', '^', '$', '|']

/-- A character that stands for itself outside brackets. -/
def isPlain (c : Char) : Bool :=
  !signs.contains c

/-- A text that does not start with an operator. -/
def NoOperator (text : List Char) : Prop :=
  ∀ c ∈ text.head?, isOperator c = false

theorem noOperator_cons {c : Char} (plain : isPlain c = true) (text : List Char) :
    NoOperator (c :: text) := by
  rintro _ ⟨⟩
  simp_all [isPlain, signs, isOperator]

theorem noOperator_of_isPlain {text : List Char} (plain : ∀ c ∈ text, isPlain c = true) :
    NoOperator text := by
  cases text with
  | nil => simp [NoOperator]
  | cons c text => exact noOperator_cons (plain c List.mem_cons_self) text

namespace CharSet

theorem single?_single (c : Char) : (single c).single? = some c := by
  have isValid : c.toNat.isValidChar := c.valid
  simp [single, single?, isValid]

end CharSet

theorem ofSet_single (c : Char) (isAscii : Bool) : ofSet (.single c) isAscii = .literal [c] := by
  rw [ofSet, CharSet.single?_single]

theorem letter_initial (c : Char) : Flags.initial.letter c = .literal [c] :=
  ofSet_single c false

namespace Written

def letter (c : Char) : Written :=
  plain (.literal [c])

end Written

theorem operators_of_noOperator {bound : Nat} (body : Written) {text : List Char}
    (ended : NoOperator text) :
    operators Flags.initial (bound + 1) body text = some (body, text) := by
  rw [operators]
  cases text with
  | nil => rfl
  | cons c text =>
      have noOperator := ended c rfl
      simp only [isOperator, Bool.or_eq_false_iff, beq_eq_false_iff_ne] at noOperator
      obtain ⟨⟨⟨noStar, noPlus⟩, noMark⟩, noBrace⟩ := noOperator
      change (if c = '*' then _ else if c = '+' then _ else if c = '?' then _ else
        if c = '\x7b' then _ else some (body, c :: text)) = _
      rw [if_neg noStar, if_neg noPlus, if_neg noMark, if_neg noBrace]

section

variable {properties : Unicode.Properties} {inner : PartReader Written} {groups : Nat}
  {names : List (List Char)}

theorem piece_of_isPlain {c : Char} (plain : isPlain c = true) (text : List Char) :
    piece properties inner c ⟨Flags.initial, groups, names⟩ text =
      some (.piece (.letter c), ⟨Flags.initial, groups, names⟩, text) := by
  have others : c ≠ '(' ∧ c ≠ '[' ∧ c ≠ '\\' ∧ c ≠ '.' ∧ c ≠ '^' ∧ c ≠ '$' ∧
      isOperator c = false := by
    simp_all [isPlain, signs, isOperator]
  obtain ⟨noGroup, noBracket, noEscape, noPoint, noStart, noEnd, noOperator⟩ := others
  rw [piece, if_neg noGroup, if_neg noBracket, if_neg noEscape, if_neg noPoint, if_neg noStart,
    if_neg noEnd, noOperator, if_neg Bool.false_ne_true, letter_initial]
  rfl

/-- Plain characters are read as letters up to what follows them. -/
theorem pieces_letters {bound : Nat} {letters rest last : List Char} {others : List Written}
    {after : Scope} (plain : ∀ c ∈ letters, isPlain c = true) (ended : NoOperator rest)
    (further : pieces properties inner (bound + 1) ⟨Flags.initial, groups, names⟩ rest =
      some (others, after, last)) :
    pieces properties inner (bound + letters.length + 1) ⟨Flags.initial, groups, names⟩
        (letters ++ rest) =
      some (letters.map Written.letter ++ others, after, last) := by
  induction letters with
  | nil => exact further
  | cons c letters ih =>
      obtain ⟨first, others⟩ := List.forall_mem_cons.mp plain
      have noEnd : ¬(c = '|' ∨ c = ')') := by
        rintro (rfl | rfl) <;> exact absurd first (by decide)
      have follows : NoOperator (letters ++ rest) := by
        cases letters with
        | nil => exact ended
        | cons d letters => exact noOperator_cons (others d List.mem_cons_self) (letters ++ rest)
      rw [List.length_cons, ← Nat.add_assoc, pieces]
      change (if c = '|' ∨ c = ')' then _ else _) = _
      rw [if_neg noEnd, List.append_eq, piece_of_isPlain first]
      simp only [Option.bind_eq_bind, Option.bind_some]
      rw [operators_of_noOperator _ follows, Option.bind_some, ih others, Option.bind_some]
      rfl

end

end Pattern
end GatewayTelemetry
