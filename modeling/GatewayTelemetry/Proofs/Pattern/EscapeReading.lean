import GatewayTelemetry.Proofs.Pattern.CharSet
import GatewayTelemetry.Proofs.Pattern.Expression

/-!
# Reading escapes

What stands behind a backslash is read as the character that it spells, as the set of the characters
in a class that a letter names, or as the set of the characters with a property, if the table knows
it.
-/

namespace GatewayTelemetry
namespace Pattern

/-- Under the flags at the start nothing is skipped. -/
theorem skip_initial (text : List Char) : Flags.initial.skip text = text :=
  rfl

theorem charOfCode?_toNat (c : Char) : charOfCode? c.toNat = some c := by
  have isValid : c.toNat.isValidChar := c.valid
  rw [charOfCode?, if_pos isValid, Char.ofNat_toNat]

/-- As many digits as asked for are read as the number that they write. -/
theorem fixedHex_digits {digits : List Char} {code number : Nat}
    (value : digits.foldlM (fun number digit => (Text.hexValue? digit).map (number * 16 + ·)) code =
      some number) (rest : List Char) :
    fixedHex Flags.initial digits.length code (digits ++ rest) = some (number, rest) := by
  induction digits generalizing code with
  | nil =>
      obtain rfl := Option.some.inj value
      rfl
  | cons digit digits ih =>
      rw [List.foldlM_cons] at value
      obtain ⟨next, ofFirst, value⟩ := Option.bind_eq_some_iff.mp value
      obtain ⟨first, isDigit, rfl⟩ := Option.map_eq_some_iff.mp ofFirst
      change (Text.hexValue? digit).bind _ = _
      rw [isDigit]
      exact ih value

theorem bracedHex_digits {digits : List Char} {code number bound : Nat}
    (value : digits.foldlM (fun number digit => (Text.hexValue? digit).map (number * 16 + ·)) code =
      some number) (enough : digits.length < bound) (rest : List Char) :
    bracedHex Flags.initial bound code (digits ++ '\x7d' :: rest) = some (number, rest) := by
  induction digits generalizing code bound with
  | nil =>
      obtain ⟨bound, rfl⟩ := Nat.exists_eq_add_of_lt enough
      obtain rfl := Option.some.inj value
      rfl
  | cons digit digits ih =>
      rw [List.foldlM_cons] at value
      obtain ⟨next, ofFirst, value⟩ := Option.bind_eq_some_iff.mp value
      obtain ⟨first, isDigit, rfl⟩ := Option.map_eq_some_iff.mp ofFirst
      obtain ⟨bound, rfl⟩ := Nat.exists_eq_add_one_of_ne_zero (Nat.ne_zero_of_lt enough)
      have noBrace : digit ≠ '\x7d' := by
        rintro rfl
        cases isDigit
      change (if digit = '\x7d' then _ else (Text.hexValue? digit).bind _) = _
      rw [if_neg noBrace, isDigit]
      exact ih value (Nat.lt_of_succ_lt_succ enough)

theorem codePoint_digits {letter c : Char} {digits : List Char}
    (among : (letter, digits.length) ∈ codeLetters) (number : hexNumber? digits = some c.toNat)
    (rest : List Char) :
    codePoint Flags.initial digits.length (digits ++ rest) = some (.char c, rest) := by
  have read := fixedHex_digits number rest
  rw [codePoint, skip_initial]
  split
  · next after brace =>
      -- No digit is a brace.
      cases digits with
      | nil => simp [codeLetters] at among
      | cons digit digits =>
          obtain ⟨rfl, -⟩ := List.cons.inj brace
          cases number
  · rw [read]
    change (charOfCode? c.toNat).bind (fun c => some (Escape.char c, rest)) = _
    rw [charOfCode?_toNat, Option.bind_some]

theorem codePoint_braced {c : Char} {digits : List Char} (filled : digits ≠ [])
    (number : hexNumber? digits = some c.toNat) (count : Nat) (rest : List Char) :
    codePoint Flags.initial count ('\x7b' :: digits ++ '\x7d' :: rest) = some (.char c, rest) := by
  have short : digits.length < (digits ++ '\x7d' :: rest).length + 1 := by
    rw [List.length_append]
    omega
  have read := bracedHex_digits number short rest
  simp only [codePoint, skip_initial, List.cons_append]
  split
  · next after brace =>
      cases digits with
      | nil => cases filled rfl
      | cons digit digits =>
          obtain ⟨rfl, -⟩ := List.cons.inj brace
          cases number
  · rw [read]
    simp [charOfCode?_toNat]

section

variable {properties : Unicode.Properties}

/-- What spells a character behind a backslash is read as that character. -/
theorem escape_of_spells {text : List Char} {c : Char} (spells : Spells text c)
    (rest : List Char) : escape properties Flags.initial (text ++ rest) = some (.char c, rest) := by
  cases spells with
  | sign isAscii isSign noEdge =>
      have noLetter : ∀ letter : Char, letter.isAlphanum = true → c ≠ letter := by
        rintro letter isLetter rfl
        exact Bool.false_ne_true (isSign.symm.trans isLetter)
      change (if c = 'x' then _ else if c = 'u' then _ else if c = 'U' then _ else
        if c = 'b' then _ else if c = 'p' then _ else if c = 'P' then _ else
          (letterEscape? Flags.initial c).map (·, rest)) = _
      rw [letterEscape?]
      repeat rw [if_neg (noLetter _ rfl)]
      rw [if_neg noEdge.1, if_neg noEdge.2, if_pos ⟨isAscii, by simp [isSign]⟩]
      rfl
  | control among =>
      simp only [controlLetters, List.mem_cons, Prod.mk.injEq, List.not_mem_nil, or_false] at among
      rcases among with ⟨rfl, rfl⟩ | ⟨rfl, rfl⟩ | ⟨rfl, rfl⟩ | ⟨rfl, rfl⟩ | ⟨rfl, rfl⟩ | ⟨rfl, rfl⟩
      all_goals rfl
  | code among number =>
      have read := codePoint_digits among number rest
      simp only [codeLetters, List.mem_cons, Prod.mk.injEq, List.not_mem_nil, or_false] at among
      rcases among with ⟨rfl, count⟩ | ⟨rfl, count⟩ | ⟨rfl, count⟩
      all_goals
        rw [count] at read
        exact read
  | braced among filled number =>
      have read := fun count => codePoint_braced filled number count rest
      rw [List.append_assoc]
      simp only [codeLetters, List.mem_cons, Prod.mk.injEq, List.not_mem_nil, or_false] at among
      rcases among with ⟨rfl, -⟩ | ⟨rfl, -⟩ | ⟨rfl, -⟩
      · exact read 2
      · exact read 4
      · exact read 8

theorem holds_negateIf {isNegated : Bool} {set : CharSet} {members : Set Char}
    (holds : set.Holds members) :
    (if isNegated then set.complement else set).Holds (negateIf isNegated members) := by
  cases isNegated with
  | false => exact holds
  | true => exact holds.complement

/-- Whatever is read behind a backslash is a set of these characters, and leaves the rest. -/
def EscapesTo (properties : Unicode.Properties) (text : List Char) (members : Set Char)
    (rest : List Char) : Prop :=
  ∀ {found : Escape × List Char}, escape properties Flags.initial text = some found →
    ∃ set : CharSet, found = (.set set, rest) ∧ set.Holds members

theorem escapesTo_letterClass (isNegated : Bool) (letters : LetterClass) (rest : List Char) :
    EscapesTo properties (letters.letter isNegated :: rest) (negateIf isNegated letters.members)
      rest := by
  intro found read
  cases letters with
  | digit =>
      cases isNegated <;> cases read
      · exact ⟨_, rfl, CharSet.holds_digit⟩
      · exact ⟨_, rfl, CharSet.holds_digit.complement⟩
  | space =>
      cases isNegated <;> cases read
      · exact ⟨_, rfl, CharSet.holds_space⟩
      · exact ⟨_, rfl, CharSet.holds_space.complement⟩
  | word =>
      cases isNegated <;> cases read
      · exact ⟨_, rfl, CharSet.holds_word⟩
      · exact ⟨_, rfl, CharSet.holds_word.complement⟩

/-! ## Properties -/

theorem bracedName_append {front name rest : List Char} (noEnd : '\x7d' ∉ name) {bound : Nat}
    (enough : name.length < bound) :
    bracedName Flags.initial bound front (name ++ '\x7d' :: rest) = some (front ++ name, rest) := by
  induction name generalizing front bound with
  | nil =>
      obtain ⟨bound, rfl⟩ := Nat.exists_eq_add_of_lt enough
      rw [List.append_nil]
      rfl
  | cons c name ih =>
      obtain ⟨noFirst, noOther⟩ := not_or.mp (fun among => noEnd (List.mem_cons.mpr among))
      obtain ⟨bound, rfl⟩ := Nat.exists_eq_add_one_of_ne_zero (Nat.ne_zero_of_lt enough)
      change (if c = '\x7d' then _ else bracedName Flags.initial bound (front ++ [c]) _) = _
      rw [if_neg (Ne.symm noFirst), List.append_eq, ih noOther (Nat.lt_of_succ_lt_succ enough),
        List.append_assoc, List.singleton_append]

/-- A name is read as it is written. -/
theorem propertyName_text (property : PropertyName) {isNegated : Bool} {sign : Char}
    {written rest : List Char} (text : property.text isNegated = sign :: written) :
    propertyName Flags.initial (written ++ rest) = some (property.name, rest) := by
  obtain rfl := (List.cons.inj text).2
  cases property with
  | letter c isName =>
      change (if c = '\x7b' then _ else if c = '\\' then _ else some ([c], rest)) = _
      rw [if_neg isName.1, if_neg isName.2]
      rfl
  | braced name noEnd =>
      have enough : name.length < (name ++ '\x7d' :: rest).length + 1 := by
        rw [List.length_append]
        omega
      have whole : '\x7b' :: name ++ ['\x7d'] ++ rest = '\x7b' :: (name ++ '\x7d' :: rest) := by
        simp
      rw [whole]
      exact bracedName_append noEnd enough

/-- A property that the table knows is read as the set of the characters with it. -/
theorem escapesTo_property (isNegated : Bool) (name : PropertyName) (rest : List Char) :
    EscapesTo properties (name.text isNegated ++ rest)
      (negateIf isNegated (name.members properties)) rest := by
  intro found read
  have named : ∃ written, name.text isNegated = (if isNegated then 'P' else 'p') :: written ∧
      escape properties Flags.initial (name.text isNegated ++ rest) =
        property properties Flags.initial isNegated (written ++ rest) := by
    cases isNegated <;> exact ⟨_, rfl, rfl⟩
  obtain ⟨written, text, same⟩ := named
  rw [same, property, propertyName_text name text] at read
  have looked : (properties.find? name.name).bind (fun ranges => some (Escape.set
      (if isNegated then (CharSet.ofCodes ranges).complement else .ofCodes ranges), rest)) =
      some found := by
    cases isNegated <;> exact read
  obtain ⟨ranges, known, same⟩ := Option.bind_eq_some_iff.mp looked
  have members : (CharSet.ofCodes ranges).Holds (name.members properties) := by
    rw [PropertyName.members, known]
    exact CharSet.holds_ofCodes ranges
  exact ⟨_, (Option.some.inj same).symm, holds_negateIf members⟩

end

end Pattern
end GatewayTelemetry
