import GatewayTelemetry.Proofs.Pattern.Denotes
import GatewayTelemetry.Proofs.Pattern.SetReading

/-!
# Reading expressions

What is read from the text of an expression denotes its language. A text may be no pattern, where it
asks for too much or gives a name twice; but if it is read, it is read as what it says.
-/

namespace GatewayTelemetry
namespace Pattern

/-! ## Counts -/

theorem isBlank_of_isDigit {c : Char} (isDigit : c.isDigit = true) : Text.isBlank c = false := by
  by_contra blank
  have among : c ∈ Text.blanks := by simpa [Text.isBlank] using blank
  have noDigit : ∀ blank ∈ Text.blanks, (!blank.isDigit) = true := List.all_eq_true.mp (by decide)
  simpa [isDigit] using noDigit c among

/-- A text that does not go on with a blank or a digit. -/
def EndsCount (text : List Char) : Prop :=
  ∀ c ∈ text.head?, Text.isBlank c = false ∧ c.isDigit = false

theorem countDigits_append {digits rest : List Char} (isNumber : ∀ c ∈ digits, c.isDigit = true)
    (ends : ∀ c ∈ rest.head?, c.isDigit = false) {number bound : Nat}
    (enough : digits.length ≤ bound) :
    countDigits Flags.initial bound number (digits ++ rest) =
      (Nat.ofDigitChars 10 digits number, rest) := by
  induction digits generalizing number bound with
  | nil =>
      cases bound with
      | zero => rfl
      | succ bound =>
          cases rest with
          | nil => rfl
          | cons c rest => exact if_neg (by simp [ends c rfl])
  | cons digit digits ih =>
      obtain ⟨bound, rfl⟩ := Nat.exists_eq_add_one_of_ne_zero (Nat.ne_zero_of_lt enough)
      obtain ⟨isDigit, others⟩ := List.forall_mem_cons.mp isNumber
      rw [List.cons_append, countDigits, if_pos isDigit, skip_initial,
        ih others (Nat.le_of_succ_le_succ enough), Nat.ofDigitChars_cons, Nat.mul_comm]

theorem dropWhile_isBlank_append {blanks rest : List Char}
    (blank : ∀ c ∈ blanks, Text.isBlank c = true)
    (ends : ∀ c ∈ rest.head?, Text.isBlank c = false) :
    (blanks ++ rest).dropWhile Text.isBlank = rest := by
  rw [List.dropWhile_append_of_pos blank]
  cases rest with
  | nil => rfl
  | cons c rest => rw [List.dropWhile_cons_of_neg (by simp [ends c rfl])]

theorem count_append {written : Count} {rest after : List Char} {number : Nat}
    (ends : EndsCount rest) (read : count Flags.initial (written.text ++ rest) =
      some (number, after)) : number = written.number ∧ after = rest := by
  obtain ⟨blanks, digits, more, blankBefore, isNumber, filled, blankAfter⟩ := written
  obtain ⟨digit, digits, rfl⟩ := List.exists_cons_of_ne_nil filled
  have isDigit := isNumber digit List.mem_cons_self
  have follows : ∀ c ∈ (digit :: (digits ++ (more ++ rest))).head?, Text.isBlank c = false := by
    rintro _ ⟨⟩
    exact isBlank_of_isDigit isDigit
  have front : (Count.text ⟨blanks, digit :: digits, more, blankBefore, isNumber, filled,
      blankAfter⟩ ++ rest).dropWhile Text.isBlank = digit :: (digits ++ (more ++ rest)) := by
    simpa [Count.text] using dropWhile_isBlank_append blankBefore follows
  have noDigit : ∀ c ∈ (more ++ rest).head?, c.isDigit = false := by
    cases more with
    | nil => exact fun c first => (ends c first).2
    | cons blank more =>
        rintro _ ⟨⟩
        by_contra digit
        have := isBlank_of_isDigit (Bool.eq_true_of_not_eq_false digit)
        exact Bool.false_ne_true (this.symm.trans (blankAfter blank List.mem_cons_self))
  have enough : (digit :: digits).length ≤ (digits ++ (more ++ rest)).length + 1 := by
    rw [List.length_cons, List.length_append]
    omega
  have digitsRead := @countDigits_append _ _ isNumber noDigit 0 _ enough
  rw [count, front] at read
  rw [List.cons_append] at digitsRead
  simp only [isDigit, if_true, digitsRead] at read
  obtain ⟨-, same⟩ := Option.ite_none_right_eq_some.mp read
  obtain ⟨rfl, rfl⟩ := Prod.mk.inj (Option.some.inj same)
  exact ⟨rfl, dropWhile_isBlank_append blankAfter fun c first => (ends c first).1⟩

theorem endsCount_brace (rest : List Char) : EndsCount ('\x7d' :: rest) := by
  rintro _ ⟨⟩
  decide

theorem endsCount_comma (rest : List Char) : EndsCount (',' :: rest) := by
  rintro _ ⟨⟩
  decide

theorem Count.exists_cons (written : Count) (rest : List Char) :
    ∃ first more, written.text ++ rest = first :: more ∧ first ≠ '\x7d' := by
  obtain ⟨blanks, digits, after, blankBefore, isNumber, filled, blankAfter⟩ := written
  cases blanks with
  | nil =>
      obtain ⟨digit, digits, rfl⟩ := List.exists_cons_of_ne_nil filled
      refine ⟨digit, digits ++ after ++ rest, by simp [Count.text], ?_⟩
      rintro rfl
      exact absurd (isNumber _ List.mem_cons_self) (by decide)
  | cons blank blanks =>
      refine ⟨blank, blanks ++ digits ++ after ++ rest, by simp [Count.text], ?_⟩
      rintro rfl
      exact absurd (blankBefore _ List.mem_cons_self) (by decide)

section

variable {written : Count} {rest after : List Char} {least : Nat} {most : Option Nat}

theorem limits_exactly
    (read : limits Flags.initial (written.text ++ '\x7d' :: rest) = some ((least, most), after)) :
    least = written.number ∧ most = some written.number ∧ after = rest := by
  obtain ⟨⟨number, behind⟩, counted, read⟩ := Option.bind_eq_some_iff.mp read
  obtain ⟨rfl, rfl⟩ := count_append (endsCount_brace rest) counted
  cases read
  exact ⟨rfl, rfl, rfl⟩

theorem limits_atLeast
    (read : limits Flags.initial (written.text ++ ',' :: '\x7d' :: rest) =
      some ((least, most), after)) :
    least = written.number ∧ most = none ∧ after = rest := by
  obtain ⟨⟨number, behind⟩, counted, read⟩ := Option.bind_eq_some_iff.mp read
  obtain ⟨rfl, rfl⟩ := count_append (endsCount_comma ('\x7d' :: rest)) counted
  cases read
  exact ⟨rfl, rfl, rfl⟩

theorem limits_between {limit : Count}
    (read : limits Flags.initial (written.text ++ ',' :: (limit.text ++ '\x7d' :: rest)) =
      some ((least, most), after)) :
    least = written.number ∧ most = some limit.number ∧ written.number ≤ limit.number ∧
      after = rest := by
  obtain ⟨⟨number, behind⟩, counted, read⟩ := Option.bind_eq_some_iff.mp read
  obtain ⟨rfl, rfl⟩ := count_append (endsCount_comma (limit.text ++ '\x7d' :: rest)) counted
  obtain ⟨first, more, split, noBrace⟩ := limit.exists_cons ('\x7d' :: rest)
  simp only [skip_initial] at read
  split at read
  · next tail brace =>
      obtain ⟨rfl, -⟩ := List.cons.inj (split.symm.trans brace)
      exact absurd rfl noBrace
  · obtain ⟨⟨number, behind⟩, counted, read⟩ := Option.bind_eq_some_iff.mp read
    obtain ⟨rfl, rfl⟩ := count_append (endsCount_brace rest) counted
    obtain ⟨ordered, same⟩ := Option.ite_none_right_eq_some.mp read
    cases same
    exact ⟨rfl, rfl, ordered, rfl⟩

end

/-! ## Operators -/

theorem lazyMark_append {isLazy : Bool} {rest : List Char}
    (ends : isLazy = true ∨ rest.head? ≠ some '?') :
    lazyMark ((if isLazy then ['?'] else []) ++ rest) = (isLazy, rest) := by
  cases isLazy with
  | true => rfl
  | false =>
      have noMark := ends.resolve_left Bool.false_ne_true
      unfold lazyMark
      split
      · next tail same =>
          obtain rfl : rest = '?' :: tail := same
          exact absurd rfl noMark
      · rfl

/-- How often something is repeated is read before the mark of a lazy repetition. -/
theorem operators_repetition {repetition : Repetition} {bound : Nat} {written : Written}
    {more : List Char} {found : Written × List Char}
    (read : operators Flags.initial (bound + 1) written (repetition.text ++ more) = some found) :
    operators Flags.initial bound (written.rounds Flags.initial repetition.least repetition.most
        (lazyMark more).1) (lazyMark more).2 = some found ∧
      ∀ limit, repetition.most = some limit → repetition.least ≤ limit := by
  cases repetition with
  | star => exact ⟨read, by simp [Repetition.most]⟩
  | plus => exact ⟨read, by simp [Repetition.most]⟩
  | optional => exact ⟨read, by simp [Repetition.least]⟩
  | exactly count =>
      have whole : (Repetition.exactly count).text ++ more =
          '\x7b' :: (count.text ++ '\x7d' :: more) := by simp [Repetition.text]
      rw [whole] at read
      obtain ⟨⟨⟨least, most⟩, rest⟩, limited, further⟩ := Option.bind_eq_some_iff.mp read
      obtain ⟨rfl, rfl, rfl⟩ := limits_exactly limited
      refine ⟨further, ?_⟩
      rintro _ ⟨⟩
      exact Nat.le_refl _
  | atLeast count =>
      have whole : (Repetition.atLeast count).text ++ more =
          '\x7b' :: (count.text ++ ',' :: '\x7d' :: more) := by simp [Repetition.text]
      rw [whole] at read
      obtain ⟨⟨⟨least, most⟩, rest⟩, limited, further⟩ := Option.bind_eq_some_iff.mp read
      obtain ⟨rfl, rfl, rfl⟩ := limits_atLeast limited
      exact ⟨further, by simp [Repetition.most]⟩
  | between count limit =>
      have whole : (Repetition.between count limit).text ++ more =
          '\x7b' :: (count.text ++ ',' :: (limit.text ++ '\x7d' :: more)) := by
        simp [Repetition.text]
      rw [whole] at read
      obtain ⟨⟨⟨least, most⟩, rest⟩, limited, further⟩ := Option.bind_eq_some_iff.mp read
      obtain ⟨rfl, rfl, ordered, rfl⟩ := limits_between limited
      refine ⟨further, ?_⟩
      rintro _ ⟨⟩
      exact ordered

/-- An operator is read as a repetition of what stands before it. -/
theorem operators_operator {operator : Operator} {bound : Nat} {written : Written}
    {rest : List Char} {found : Written × List Char}
    (ends : operator.isLazy = true ∨ rest.head? ≠ some '?')
    (read : operators Flags.initial (bound + 1) written (operator.text ++ rest) = some found) :
    operators Flags.initial bound (written.rounds Flags.initial operator.repetition.least
        operator.repetition.most operator.isLazy) rest = some found ∧
      ∀ limit, operator.repetition.most = some limit → operator.repetition.least ≤ limit := by
  rw [Operator.text, List.append_assoc] at read
  have result := operators_repetition read
  rwa [lazyMark_append ends] at result

theorem Denotes.writtenRounds {written : Written} {language : Language Char}
    (denotes : Denotes written.pattern.Passes language) {operator : Operator}
    (ordered : ∀ limit, operator.repetition.most = some limit →
      operator.repetition.least ≤ limit) :
    Denotes (written.rounds Flags.initial operator.repetition.least operator.repetition.most
      operator.isLazy).pattern.Passes (operator.language language) :=
  denotes.patternRounds ordered _

theorem Operator.head?_text_ne {operator : Operator} (other : operator.repetition ≠ .optional)
    (rest : List Char) : (operator.text ++ rest).head? ≠ some '?' := by
  obtain ⟨repetition, isLazy⟩ := operator
  cases repetition with
  | optional => exact absurd rfl other
  | star | plus | exactly | atLeast | between => simp [Operator.text, Repetition.text]

/-- Operators are read as repetitions, from the first one to the last. -/
theorem operators_reads {list : List Operator}
    (isChain : list.IsChain fun before operator => operator.MayFollow before) {bound : Nat}
    {written : Written} {language : Language Char}
    (denotes : Denotes written.pattern.Passes language) {more rest : List Char} {found : Written}
    (ends : NoOperator more)
    (read : operators Flags.initial bound written (list.flatMap Operator.text ++ more) =
      some (found, rest)) :
    Denotes found.pattern.Passes
        (list.foldl (fun language operator => operator.language language) language) ∧
      rest = more := by
  induction list generalizing bound written language with
  | nil =>
      cases bound with
      | zero => cases read
      | succ bound =>
          rw [List.flatMap_nil, List.nil_append, operators_of_noOperator written ends] at read
          obtain ⟨rfl, rfl⟩ := Prod.mk.inj (Option.some.inj read)
          exact ⟨denotes, rfl⟩
  | cons operator list ih =>
      cases bound with
      | zero => cases read
      | succ bound =>
          rw [List.flatMap_cons, List.append_assoc] at read
          have mark : operator.isLazy = true ∨
              (list.flatMap Operator.text ++ more).head? ≠ some '?' := by
            cases list with
            | nil => exact .inr fun first => by simpa [isOperator] using ends '?' first
            | cons next list =>
                rw [List.flatMap_cons, List.append_assoc]
                exact (List.rel_of_isChain_cons_cons isChain).imp_right fun other =>
                  Operator.head?_text_ne other _
          obtain ⟨further, ordered⟩ := operators_operator mark read
          exact ih (List.isChain_of_isChain_cons isChain) (denotes.writtenRounds ordered) further

/-! ## Where expressions start -/

theorem GroupOpening.exists_cons (opening : GroupOpening) :
    ∃ rest, opening.text = '(' :: rest := by
  cases opening with
  | numbered => exact ⟨_, rfl⟩
  | named isShort name noEnd => cases isShort <;> exact ⟨_, rfl⟩
  | plain => exact ⟨_, rfl⟩

/-- An atom starts with a character that ends nothing before it. -/
theorem Atom.exists_cons (atom : Atom) : ∃ first rest, atom.text = first :: rest ∧
    isOperator first = false ∧ first ≠ '|' ∧ first ≠ ')' := by
  cases atom with
  | plain c isPlain =>
      refine ⟨c, [], by rw [Atom.text], ?_⟩
      simp_all [Pattern.isPlain, signs, isOperator]
  | escaped text c spells => exact ⟨'\\', text, by rw [Atom.text], by decide⟩
  | point => exact ⟨'.', [], by rw [Atom.text], by decide⟩
  | letterClass isNegated letters =>
      exact ⟨'\\', [letters.letter isNegated], by rw [Atom.text], by decide⟩
  | property isNegated name => exact ⟨'\\', name.text isNegated, by rw [Atom.text], by decide⟩
  | set set =>
      exact ⟨'[', caret set.isNegated ++ set.front.text ++ set.items.text,
        by simp [Atom.text, BracketSet.text], by decide⟩
  | group opening body =>
      obtain ⟨rest, split⟩ := opening.exists_cons
      exact ⟨'(', rest ++ body.text ++ [')'], by simp [Atom.text, split], by decide⟩

theorem Branch.noOperator_append (branch : Branch) {more : List Char} (ends : NoOperator more) :
    NoOperator (branch.text ++ more) := by
  cases branch with
  | empty => rwa [Branch.text, List.nil_append]
  | next atom operators rest =>
      obtain ⟨first, text, split, noOperator, -⟩ := atom.exists_cons
      rw [Branch.text, split]
      rintro _ ⟨⟩
      exact noOperator

theorem Expression.noOperator_append (expression : Expression) {more : List Char}
    (ends : NoOperator more) : NoOperator (expression.text ++ more) := by
  cases expression with
  | only branch =>
      rw [Expression.text]
      exact branch.noOperator_append ends
  | either branch others =>
      rw [Expression.text, List.append_assoc]
      exact branch.noOperator_append (by rintro _ ⟨⟩; rfl)

theorem Expression.head?_text_ne (expression : Expression) (more : List Char) :
    (expression.text ++ ')' :: more).head? ≠ some '?' := by
  intro mark
  have closes : NoOperator (')' :: more) := by
    rintro _ ⟨⟩
    rfl
  exact absurd (expression.noOperator_append closes '?' mark) (by decide)

/-! ## Groups -/

/-- Flags are those at the start, and the first group was opened. -/
def Scope.IsInside (scope : Scope) : Prop :=
  scope.flags = Flags.initial ∧ 0 < scope.groups

theorem isNamePart_close : isNamePart '>' = false := by
  decide +kernel

theorem groupName_append {names : List (List Char)} {name text : List Char} (noEnd : '>' ∉ name)
    {found : List Char × List Char} (read : groupName names (name ++ '>' :: text) = some found) :
    found.2 = text := by
  unfold groupName at read
  split at read
  · next rest stop =>
      obtain ⟨-, same⟩ := Option.ite_none_right_eq_some.mp read
      rw [← Option.some.inj same]
      rw [List.dropWhile_append] at stop
      split at stop
      · rw [List.dropWhile_cons_of_neg (by simp [isNamePart_close])] at stop
        exact (List.cons.inj stop).2.symm
      · next begins =>
          -- The name ends at its first other character, which is not the bracket.
          obtain ⟨c, more, split⟩ := List.exists_cons_of_ne_nil
            (fun empty => begins (List.isEmpty_iff.mpr empty))
          rw [split] at stop
          obtain ⟨rfl, -⟩ := List.cons.inj stop
          have among : '>' ∈ name.dropWhile isNamePart := split ▸ List.mem_cons_self
          exact absurd ((List.dropWhile_sublist _).subset among) noEnd
  · cases read

/-- A text that starts with no question mark is behind the opening of a numbered group. -/
theorem opening_of_noMark {scope : Scope} {text : List Char} (noMark : text.head? ≠ some '?') :
    opening scope text = some (.capturing none, text) := by
  unfold opening
  split
  all_goals first | rfl | exact absurd rfl noMark

/-- What is behind `?<` is read as a name, or as no group at all. -/
theorem opening_shortName {scope : Scope} {name text : List Char} {found : Opening × List Char}
    (read : opening scope ('?' :: '<' :: (name ++ '>' :: text)) = some found) :
    (groupName scope.names (name ++ '>' :: text)).map
        (fun named => (Opening.capturing (some named.1), named.2)) = some found := by
  cases name with
  | nil => exact read
  | cons c name =>
      -- These two characters would look behind.
      by_cases ahead : c = '='
      · subst ahead
        cases read
      · by_cases behind : c = '!'
        · subst behind
          cases read
        · simpa [opening, ahead, behind] using read

/-- The opening of a group is read up to what is in the group. -/
theorem opening_reads (group : GroupOpening) {scope : Scope} (flags : scope.flags = Flags.initial)
    {text inside rest : List Char} (noMark : inside.head? ≠ some '?')
    (split : group.text = '(' :: text) {announced : Opening}
    (read : opening scope (text ++ inside) = some (announced, rest)) :
    ((∃ name, announced = .capturing name) ∨ announced = .plain Flags.initial) ∧
      rest = inside := by
  cases group with
  | numbered =>
      obtain rfl : [] = text := (List.cons.inj split).2
      rw [List.nil_append, opening_of_noMark noMark] at read
      cases read
      exact ⟨.inl ⟨_, rfl⟩, rfl⟩
  | named isShort name noEnd =>
      have named : (groupName scope.names (name ++ '>' :: inside)).map
          (fun named => (Opening.capturing (some named.1), named.2)) = some (announced, rest) := by
        cases isShort with
        | true =>
            obtain rfl : '?' :: '<' :: name ++ ['>'] = text := (List.cons.inj split).2
            rw [List.append_assoc] at read
            exact opening_shortName read
        | false =>
            obtain rfl : '?' :: 'P' :: '<' :: name ++ ['>'] = text := (List.cons.inj split).2
            rw [List.append_assoc] at read
            exact read
      obtain ⟨found, hasName, same⟩ := Option.map_eq_some_iff.mp named
      have behind := groupName_append noEnd hasName
      cases same
      exact ⟨.inl ⟨_, rfl⟩, behind⟩
  | plain =>
      obtain rfl : ['?', ':'] = text := (List.cons.inj split).2
      obtain ⟨currentFlags, groups, names⟩ := scope
      obtain rfl : currentFlags = Flags.initial := flags
      cases read
      exact ⟨.inr rfl, rfl⟩

section

variable {inner : PartReader Written} {scope : Scope} {body more : List Char}
  {language : Language Char}

/-- What a reader takes for the inside of a group denotes a language. -/
def ReadsInside (inner : PartReader Written) (body : List Char) (language : Language Char) :
    Prop :=
  ∀ {scope : Scope} {more : List Char} {found : Written × Scope × List Char}, scope.IsInside →
    inner scope (body ++ ')' :: more) = some found →
      Denotes found.1.pattern.Passes language ∧ found.2.1.IsInside ∧ found.2.2 = ')' :: more

theorem enclosed_reads (reads : ReadsInside inner body language) (isInside : scope.IsInside)
    {found : Written × Scope × List Char}
    (read : enclosed inner scope Flags.initial (body ++ ')' :: more) = some found) :
    Denotes found.1.pattern.Passes language ∧ found.2.1.IsInside ∧ found.2.2 = more := by
  obtain ⟨⟨written, after, rest⟩, inside, read⟩ := Option.bind_eq_some_iff.mp read
  have plain : Scope.IsInside { scope with flags := Flags.initial } := ⟨rfl, isInside.2⟩
  obtain ⟨denotes, afterInside, rfl⟩ := reads plain inside
  cases read
  exact ⟨denotes, ⟨isInside.1, afterInside.2⟩, rfl⟩

/-- A piece was read that denotes a language, and the text goes on behind it. -/
def IsPieceOf (language : Language Char) (more : List Char)
    (found : Piece × Scope × List Char) : Prop :=
  ∃ written : Written, found.1 = .piece written ∧ Denotes written.pattern.Passes language ∧
    found.2.1.IsInside ∧ found.2.2 = more

/-- A group is read as what is in it, whether it captures or not. -/
theorem parenthesis_reads (group : GroupOpening) (reads : ReadsInside inner body language)
    (noMark : (body ++ ')' :: more).head? ≠ some '?') (isInside : scope.IsInside)
    {text : List Char} (split : group.text = '(' :: text) {found : Piece × Scope × List Char}
    (read : parenthesis inner scope (text ++ (body ++ ')' :: more)) = some found) :
    IsPieceOf language more found := by
  obtain ⟨flags, groups, names⟩ := scope
  obtain ⟨rfl, opened⟩ : flags = Flags.initial ∧ 0 < groups := isInside
  obtain ⟨⟨announced, rest⟩, hasOpened, read⟩ := Option.bind_eq_some_iff.mp read
  obtain ⟨⟨name, rfl⟩ | rfl, rfl⟩ := opening_reads group rfl noMark split hasOpened
  · obtain ⟨⟨written, after, rest⟩, inside, same⟩ := Option.bind_eq_some_iff.mp read
    have deeper : Scope.IsInside ⟨Flags.initial, groups + 1, name.toList ++ names⟩ :=
      ⟨rfl, Nat.succ_pos groups⟩
    obtain ⟨denotes, afterInside, rfl⟩ := enclosed_reads reads deeper inside
    cases same
    exact ⟨_, rfl, denotes.group (by dsimp only; omega), afterInside, rfl⟩
  · obtain ⟨⟨written, after, rest⟩, inside, same⟩ := Option.bind_eq_some_iff.mp read
    have here : Scope.IsInside ⟨Flags.initial, groups, names⟩ := ⟨rfl, opened⟩
    obtain ⟨denotes, afterInside, rfl⟩ := enclosed_reads reads here inside
    cases same
    exact ⟨_, rfl, denotes, afterInside, rfl⟩

end

/-! ## Single characters -/

section

variable {properties : Unicode.Properties} {inner : PartReader Written} {scope : Scope}
  {text more : List Char} {found : Piece × Scope × List Char}

theorem denotes_letter (c : Char) :
    Denotes (Flags.initial.letter c).Passes (oneOf {c}) :=
  denotes_ofSet (CharSet.holds_single c) false

theorem piece_plain {c : Char} (isPlain : Pattern.isPlain c = true) (isInside : scope.IsInside)
    (read : piece properties inner c scope more = some found) :
    IsPieceOf (oneOf {c}) more found := by
  obtain ⟨flags, groups, names⟩ := scope
  obtain ⟨rfl, opened⟩ : flags = Flags.initial ∧ 0 < groups := isInside
  rw [piece_of_isPlain isPlain] at read
  cases read
  refine ⟨.letter c, rfl, ?_, ⟨rfl, opened⟩, rfl⟩
  rw [Written.letter, ← letter_initial]
  exact denotes_letter c

theorem piece_escape {language : Language Char}
    (escapes : ∀ {result : Escape × List Char}, escape properties Flags.initial text = some result →
      Denotes (result.1.toPattern Flags.initial).Passes language ∧ result.2 = more)
    (isInside : scope.IsInside)
    (read : piece properties inner '\\' scope text = some found) :
    IsPieceOf language more found := by
  obtain ⟨flags, groups, names⟩ := scope
  obtain ⟨rfl, opened⟩ : flags = Flags.initial ∧ 0 < groups := isInside
  obtain ⟨⟨escaped, rest⟩, hasEscape, same⟩ := Option.bind_eq_some_iff.mp read
  obtain ⟨denotes, rfl⟩ := escapes hasEscape
  cases same
  exact ⟨_, rfl, denotes, ⟨rfl, opened⟩, rfl⟩

theorem piece_spelled {spelled : List Char} {c : Char} (spells : Spells spelled c)
    (isInside : scope.IsInside)
    (read : piece properties inner '\\' scope (spelled ++ more) = some found) :
    IsPieceOf (oneOf {c}) more found := by
  refine piece_escape (fun escaped => ?_) isInside read
  cases (escape_of_spells spells more).symm.trans escaped
  exact ⟨denotes_letter c, rfl⟩

theorem piece_escapedSet {members : Set Char} (escapes : EscapesTo properties text members more)
    (isInside : scope.IsInside)
    (read : piece properties inner '\\' scope text = some found) :
    IsPieceOf (oneOf members) more found := by
  refine piece_escape (fun escaped => ?_) isInside read
  obtain ⟨set, rfl, holds⟩ := escapes escaped
  exact ⟨denotes_ofSet holds false, rfl⟩

theorem piece_point (isInside : scope.IsInside)
    (read : piece properties inner '.' scope more = some found) :
    IsPieceOf (oneOf {c | c ≠ '\n'}) more found := by
  obtain ⟨flags, groups, names⟩ := scope
  obtain ⟨rfl, opened⟩ : flags = Flags.initial ∧ 0 < groups := isInside
  cases read
  exact ⟨_, rfl, denotes_ofSet CharSet.holds_noFeed false, ⟨rfl, opened⟩, rfl⟩

theorem piece_set (set : BracketSet) (isInside : scope.IsInside)
    (read : piece properties inner '[' scope
      (caret set.isNegated ++ set.front.text ++ (set.items.text ++ more)) = some found) :
    IsPieceOf (oneOf (set.members properties)) more found := by
  obtain ⟨flags, groups, names⟩ := scope
  obtain ⟨rfl, opened⟩ : flags = Flags.initial ∧ 0 < groups := isInside
  obtain ⟨⟨⟨listed, nested⟩, rest⟩, inside, same⟩ := Option.bind_eq_some_iff.mp read
  obtain ⟨holds, rfl⟩ := bracket_reads set inside
  cases same
  exact ⟨_, rfl, denotes_ofSet holds false, ⟨rfl, opened⟩, rfl⟩

end

/-! ## Sequences and alternatives -/

variable {properties : Unicode.Properties}

theorem Written.passes_sequence (pieces : List Written) :
    (Written.sequence pieces).pattern.Passes = InTurn (pieces.map Written.pattern) := by
  fun_cases Written.sequence pieces with
  | case1 => rfl
  | case2 only => exact (inTurn_singleton only.pattern).symm
  | case3 pieces => exact Pattern.passes_sequence _

theorem Written.passes_choice (alternatives : List Written) :
    (Written.choice alternatives).pattern.Passes = AnyOf (alternatives.map Written.pattern) := by
  fun_cases Written.choice alternatives with
  | case1 only => exact (anyOf_singleton only.pattern).symm
  | case2 alternatives => exact Pattern.passes_choice _

def EndsBranch (text : List Char) : Prop :=
  ∀ c ∈ text.head?, c = '|' ∨ c = ')'

theorem EndsBranch.noOperator {text : List Char} (ends : EndsBranch text) : NoOperator text := by
  intro c first
  rcases ends c first with rfl | rfl <;> rfl

theorem pieces_of_endsBranch {inner : PartReader Written} {bound : Nat} {scope : Scope}
    (flags : scope.flags = Flags.initial) {text : List Char} (ends : EndsBranch text) :
    pieces properties inner (bound + 1) scope text = some ([], scope, text) := by
  rw [pieces, flags, skip_initial]
  cases text with
  | nil => rfl
  | cons c text => exact if_pos (ends c rfl)

/-- What is read as alternatives is read as the inside of a group. -/
theorem readsInside_body {text : List Char} {language : Language Char}
    (reads : ∀ {depth bound : Nat} {scope : Scope} {more : List Char}
      {found : List Written × Scope × List Char}, scope.IsInside →
        alternatives properties (body properties depth) bound scope (text ++ ')' :: more) =
            some found →
          Denotes (AnyOf (found.1.map Written.pattern)) language ∧
            found.2.1.IsInside ∧ found.2.2 = ')' :: more) {depth : Nat} :
    ReadsInside (body properties depth) text language := by
  intro scope more found isInside read
  cases depth with
  | zero => cases read
  | succ depth =>
      obtain ⟨⟨written, after, rest⟩, others, same⟩ := Option.bind_eq_some_iff.mp read
      obtain ⟨denotes, afterInside, rfl⟩ := reads isInside others
      cases same
      exact ⟨Written.passes_choice written ▸ denotes, afterInside, rfl⟩

mutual

/-- An atom is read as what it says. -/
theorem Atom.reads (atom : Atom) {depth : Nat} {scope : Scope} (isInside : scope.IsInside)
    {first : Char} {text more : List Char} (split : atom.text = first :: text)
    {found : Piece × Scope × List Char}
    (read : piece properties (body properties depth) first scope (text ++ more) = some found) :
    IsPieceOf (atom.language properties) more found := by
  match atom with
  | .plain c isPlain =>
      rw [Atom.text] at split
      obtain ⟨rfl, rfl⟩ := List.cons.inj split
      rw [Atom.language]
      exact piece_plain isPlain isInside read
  | .escaped escape c spells =>
      rw [Atom.text] at split
      obtain ⟨rfl, rfl⟩ := List.cons.inj split
      rw [Atom.language]
      exact piece_spelled spells isInside read
  | .point =>
      rw [Atom.text] at split
      obtain ⟨rfl, rfl⟩ := List.cons.inj split
      rw [Atom.language]
      exact piece_point isInside read
  | .letterClass isNegated letters =>
      rw [Atom.text] at split
      obtain ⟨rfl, rfl⟩ := List.cons.inj split
      rw [Atom.language]
      exact piece_escapedSet (escapesTo_letterClass isNegated letters more) isInside read
  | .property isNegated name =>
      rw [Atom.text] at split
      obtain ⟨rfl, rfl⟩ := List.cons.inj split
      rw [Atom.language]
      exact piece_escapedSet (escapesTo_property isNegated name more) isInside read
  | .set set =>
      rw [Atom.text, BracketSet.text, List.append_assoc, List.cons_append] at split
      obtain ⟨rfl, rfl⟩ := List.cons.inj split
      rw [← List.append_assoc, List.append_assoc] at read
      rw [Atom.language]
      exact piece_set set isInside read
  | .group opening inner =>
      obtain ⟨tail, hasOpening⟩ := opening.exists_cons
      have whole : '(' :: (tail ++ inner.text ++ [')']) = first :: text := by
        rw [← split, Atom.text, hasOpening]
        rfl
      obtain ⟨rfl, rfl⟩ := List.cons.inj whole
      rw [List.append_assoc, List.append_assoc] at read
      have reads : ReadsInside (body properties depth) inner.text (inner.language properties) :=
        readsInside_body fun isInside read => Expression.reads inner isInside read
      rw [Atom.language]
      exact parenthesis_reads opening reads (inner.head?_text_ne more) isInside hasOpening read

theorem Branch.reads (branch : Branch) {depth bound : Nat} {scope : Scope}
    (isInside : scope.IsInside) {more : List Char} (ends : EndsBranch more)
    {found : List Written × Scope × List Char}
    (read : pieces properties (body properties depth) bound scope (branch.text ++ more) =
      some found) :
    Denotes (InTurn (found.1.map Written.pattern)) (branch.language properties) ∧
      found.2.1.IsInside ∧ found.2.2 = more := by
  match branch with
  | .empty =>
      cases bound with
      | zero => cases read
      | succ bound =>
          rw [Branch.text, List.nil_append, pieces_of_endsBranch isInside.1 ends] at read
          cases read
          rw [Branch.language]
          exact ⟨denotes_eq, isInside, rfl⟩
  | .next atom operators others =>
      cases bound with
      | zero => cases read
      | succ bound =>
          obtain ⟨first, text, split, -, noBar, noClose⟩ := atom.exists_cons
          have whole : (Branch.next atom operators others).text ++ more =
              first :: (text ++ (operators.text ++ (others.text ++ more))) := by
            simp [Branch.text, split]
          rw [whole, pieces, isInside.1, skip_initial] at read
          change (if first = '|' ∨ first = ')' then _ else _) = _ at read
          rw [if_neg (not_or.mpr ⟨noBar, noClose⟩)] at read
          obtain ⟨⟨piece, after, rest⟩, hasAtom, read⟩ := Option.bind_eq_some_iff.mp read
          obtain ⟨written, rfl, denotes, afterInside, rfl⟩ := Atom.reads atom isInside split hasAtom
          obtain ⟨⟨repeated, behind⟩, hasOperators, read⟩ := Option.bind_eq_some_iff.mp read
          rw [afterInside.1] at hasOperators
          obtain ⟨denotesFirst, rfl⟩ := operators_reads operators.isChain denotes
            (others.noOperator_append ends.noOperator) hasOperators
          obtain ⟨⟨written, last, rest⟩, hasOthers, same⟩ := Option.bind_eq_some_iff.mp read
          obtain ⟨denotesOthers, lastInside, rfl⟩ := Branch.reads others afterInside ends hasOthers
          cases same
          rw [Branch.language]
          exact ⟨denotesFirst.comp denotesOthers, lastInside, rfl⟩

/-- An expression is read as what it says, up to where the group around it ends. -/
theorem Expression.reads (expression : Expression) {depth bound : Nat} {scope : Scope}
    (isInside : scope.IsInside) {more : List Char} {found : List Written × Scope × List Char}
    (read : alternatives properties (body properties depth) bound scope
      (expression.text ++ ')' :: more) = some found) :
    Denotes (AnyOf (found.1.map Written.pattern)) (expression.language properties) ∧
      found.2.1.IsInside ∧ found.2.2 = ')' :: more := by
  match expression with
  | .only branch =>
      cases bound with
      | zero => cases read
      | succ bound =>
          rw [Expression.text] at read
          obtain ⟨⟨written, after, rest⟩, hasBranch, same⟩ := Option.bind_eq_some_iff.mp read
          have ends : EndsBranch (')' :: more) := by
            rintro _ ⟨⟩
            exact .inr rfl
          obtain ⟨denotes, afterInside, rfl⟩ := Branch.reads branch isInside ends hasBranch
          cases same
          rw [Expression.language, List.map_singleton, anyOf_singleton, Written.passes_sequence]
          exact ⟨denotes, afterInside, rfl⟩
  | .either branch others =>
      cases bound with
      | zero => cases read
      | succ bound =>
          rw [Expression.text, List.append_assoc] at read
          obtain ⟨⟨written, after, rest⟩, hasBranch, read⟩ := Option.bind_eq_some_iff.mp read
          have ends : EndsBranch ('|' :: (others.text ++ ')' :: more)) := by
            rintro _ ⟨⟩
            exact .inl rfl
          obtain ⟨denotes, afterInside, rfl⟩ := Branch.reads branch isInside ends hasBranch
          obtain ⟨⟨alternatives, last, rest⟩, hasOthers, same⟩ := Option.bind_eq_some_iff.mp read
          obtain ⟨denotesOthers, lastInside, rfl⟩ := Expression.reads others afterInside hasOthers
          cases same
          rw [Expression.language, List.map_cons, AnyOf, Written.passes_sequence]
          exact ⟨denotes.sup denotesOthers, lastInside, rfl⟩

end

/-! ## The first group -/

/-- An expression in parentheses, on its own, is read as the first group. -/
theorem exists_of_parse?_group {expression : Expression} {text : String}
    (spelled : text.toList = '(' :: (expression.text ++ [')'])) {pattern : Pattern}
    (parsed : parse? properties text = some pattern) :
    ∃ body, pattern = .group 1 body ∧ Denotes body.Passes (expression.language properties) := by
  rw [parse?] at parsed
  split at parsed
  · next whole after read =>
      obtain ⟨-, same⟩ := Option.ite_none_right_eq_some.mp parsed
      obtain rfl := Option.some.inj same
      rw [spelled] at read
      obtain ⟨⟨branches, last, rest⟩, read, same⟩ := Option.bind_eq_some_iff.mp read
      cases same
      obtain ⟨⟨pieces, behind, rest⟩, read, others⟩ := Option.bind_eq_some_iff.mp read
      obtain ⟨⟨piece, scope, rest⟩, group, read⟩ := Option.bind_eq_some_iff.mp read
      obtain ⟨⟨announced, inside⟩, hasOpening, group⟩ := Option.bind_eq_some_iff.mp group
      cases hasOpening.symm.trans (opening_of_noMark (expression.head?_text_ne []))
      obtain ⟨⟨written, within, rest⟩, hasInside, same⟩ := Option.bind_eq_some_iff.mp group
      have first : Scope.IsInside ⟨Flags.initial, 1, []⟩ := ⟨rfl, Nat.one_pos⟩
      obtain ⟨denotes, isInside, rfl⟩ := enclosed_reads
        (readsInside_body fun isInside read => expression.reads isInside read) first hasInside
      cases same
      obtain ⟨⟨repeated, rest⟩, hasOperators, read⟩ := Option.bind_eq_some_iff.mp read
      have flags : scope.flags = Flags.initial := isInside.1
      have ends : EndsBranch [] := by
        rintro _ ⟨⟩
      rw [flags, List.length_cons, operators_of_noOperator _ ends.noOperator] at hasOperators
      cases hasOperators
      obtain ⟨⟨more, last, rest⟩, hasMore, same⟩ := Option.bind_eq_some_iff.mp read
      rw [List.length_cons, pieces_of_endsBranch flags ends] at hasMore
      cases hasMore
      cases same
      cases others
      exact ⟨written.pattern, rfl, denotes⟩
  · cases parsed

end Pattern
end GatewayTelemetry
