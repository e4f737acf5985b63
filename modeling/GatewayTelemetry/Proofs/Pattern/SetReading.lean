import GatewayTelemetry.Proofs.Pattern.EscapeReading

/-!
# Reading sets

A set in brackets is read as the set of its characters, whatever follows it. Each kind of item adds
its characters to those that were listed before it, and each operator sets them aside as its left
side.
-/

namespace GatewayTelemetry
namespace Pattern

/-! ## Classes with names -/

theorem holds_asciiLetter : CharSet.asciiLetter.Holds asciiLetters := by
  obtain ⟨ascending, contains_iff⟩ :=
    @CharSet.holds_ofRanges [⟨0x41, 0x5a⟩, ⟨0x61, 0x7a⟩] (by decide)
  refine ⟨ascending, fun c => (contains_iff c).trans ?_⟩
  exact CharSet.anyContains_cons.trans (or_congr Iff.rfl
    (CharSet.anyContains_cons.trans (or_iff_left Bool.false_ne_true)))

theorem holds_asciiSpace : CharSet.asciiSpace.Holds (Set.Icc '\t' '\r' ∪ {' '}) := by
  obtain ⟨ascending, contains_iff⟩ :=
    @CharSet.holds_ofRanges [⟨0x9, 0xd⟩, ⟨0x20, 0x20⟩] (by decide)
  refine ⟨ascending, fun c => (contains_iff c).trans ?_⟩
  refine CharSet.anyContains_cons.trans (or_congr Iff.rfl
    (CharSet.anyContains_cons.trans ((or_iff_left Bool.false_ne_true).trans ?_)))
  exact Nat.le_antisymm_iff.symm.trans (eq_comm.trans (@Char.toNat_inj c ' '))

theorem holds_asciiDigit : CharSet.asciiDigit.Holds asciiDigits :=
  CharSet.holds_range (by decide)

theorem exists_namedSet? (named : NamedClass) :
    ∃ set : CharSet, namedSet? named.name.toList = some set ∧ set.Holds named.members := by
  have letters := holds_asciiLetter
  have digits := holds_asciiDigit
  have between : ∀ {low high : Char}, low ≤ high →
    (CharSet.range low high).Holds (Set.Icc low high) := CharSet.holds_range
  cases named with
  | alnum => exact ⟨_, rfl, letters.union digits⟩
  | alpha => exact ⟨_, rfl, letters⟩
  | ascii => exact ⟨_, rfl, between (by decide)⟩
  | blank =>
      obtain ⟨ascending, contains_iff⟩ := CharSet.holds_ofList ['\t', ' ']
      exact ⟨_, rfl, ascending, fun c => (contains_iff c).trans (by simp [NamedClass.members])⟩
  | cntrl => exact ⟨_, rfl, (between (by decide)).union (CharSet.holds_single _)⟩
  | digit => exact ⟨_, rfl, digits⟩
  | graph => exact ⟨_, rfl, between (by decide)⟩
  | lower => exact ⟨_, rfl, between (by decide)⟩
  | print => exact ⟨_, rfl, between (by decide)⟩
  | punct => exact ⟨_, rfl, (between (by decide)).minus (letters.union digits)⟩
  | space => exact ⟨_, rfl, holds_asciiSpace⟩
  | upper => exact ⟨_, rfl, between (by decide)⟩
  | word => exact ⟨_, rfl, letters.union (digits.union (CharSet.holds_single _))⟩
  | xdigit =>
      exact ⟨_, rfl, digits.union ((between (by decide)).union (between (by decide)))⟩

/-- A name that stands for a set is the name of a class. -/
theorem exists_of_namedSet? {name : List Char} {set : CharSet}
    (found : namedSet? name = some set) : ∃ named : NamedClass, named.name.toList = name := by
  by_contra foreign
  have other : ∀ named : NamedClass, ¬name = named.name.toList :=
    fun named same => foreign ⟨named, same.symm⟩
  have nothing : namedSet? name = none := by
    rw [namedSet?]
    iterate 14 rw [if_neg]
    exacts [other .xdigit, other .word, other .upper, other .space, other .punct, other .print,
      other .lower, other .graph, other .digit, other .cntrl, other .blank, other .ascii,
      other .alpha, other .alnum]
  cases nothing.symm.trans found

/-- A class with a name is read as the set of its characters. -/
theorem exists_namedSet (isNegated : Bool) (named : NamedClass) (rest : List Char) :
    ∃ set : CharSet, namedSet (named.text isNegated ++ rest) = some ((isNegated, set), rest) ∧
      set.Holds named.members := by
  obtain ⟨set, found, holds⟩ := exists_namedSet? named
  have read : namedSet (named.text isNegated ++ rest) =
      (namedSet? named.name.toList).map fun set => ((isNegated, set), rest) := by
    cases isNegated <;> cases named <;> rfl
  exact ⟨set, by rw [read, found, Option.map_some], holds⟩

theorem eq_caret_append_of_negation {text rest : List Char} {isNegated : Bool}
    (read : negation text = (isNegated, rest)) : text = caret isNegated ++ rest := by
  unfold negation at read
  split at read
  all_goals
    obtain ⟨rfl, rfl⟩ := Prod.mk.inj read
    rfl

theorem exists_prefix_of_namedSet {text : List Char} {found : (Bool × CharSet) × List Char}
    (read : namedSet text = some found) :
    ∃ isNegated named, NamedClass.text isNegated named <+: text := by
  fun_cases namedSet text with
  | case1 body isNegated rest sign after stop =>
      have front := eq_caret_append_of_negation sign
      simp only [namedSet, sign, stop] at read
      obtain ⟨set, found, -⟩ := Option.bind_eq_some_iff.mp read
      obtain ⟨named, same⟩ := exists_of_namedSet? found
      refine ⟨isNegated, named, after, ?_⟩
      have whole : rest = named.name.toList ++ ':' :: ']' :: after := by
        rw [same, ← stop, List.takeWhile_append_dropWhile]
      rw [front, whole, NamedClass.text]
      simp
  | case2 body isNegated rest sign noStop => simp [namedSet, sign] at read
  | case3 noColon => simp [namedSet] at read

/-! ## Items -/

variable {properties : Unicode.Properties}

theorem setItem_text {c : SetChar} (noBackslash : ∀ plain, c = .plain plain → plain ≠ '\\')
    (rest : List Char) :
    setItem properties Flags.initial (c.text ++ rest) = some (.char c.char, rest) := by
  cases c with
  | plain c => exact if_neg (noBackslash c rfl)
  | escaped text c spells =>
      rw [SetChar.text, List.cons_append, setItem, if_pos rfl, escape_of_spells spells]
      rfl

theorem setItem_of_startsItem {c : SetChar} {after : List Char} (starts : c.StartsItem after)
    (rest : List Char) :
    setItem properties Flags.initial (c.text ++ rest) = some (.char c.char, rest) := by
  refine setItem_text ?_ rest
  rintro plain rfl rfl
  exact starts.1 (by decide)

theorem setItem_of_endsRange {c : SetChar} (ends : c.EndsRange) (rest : List Char) :
    setItem properties Flags.initial (c.text ++ rest) = some (.char c.char, rest) := by
  refine setItem_text ?_ rest
  rintro plain rfl rfl
  exact ends (by decide)

section

variable {text rest after : List Char} {found : CharSet}

/-- An item without a hyphen behind it stands alone. -/
theorem setRange_alone {low : Escape} {set : CharSet}
    (item : setItem properties Flags.initial text = some (low, rest))
    (alone : low.toSet? Flags.initial = some set) (noRange : ¬MakesRange rest)
    (read : setRange properties Flags.initial text = some (found, after)) :
    found = set ∧ after = rest := by
  rw [setRange, item] at read
  simp only [Option.bind_eq_bind, Option.bind_some, skip_initial, alone] at read
  split at read
  · cases read
  · next behind =>
      split at read
      · cases read
        exact ⟨rfl, rfl⟩
      · next makes =>
          obtain ⟨noBracket, noHyphen⟩ := not_or.mp makes
          exact absurd ⟨behind, rfl, noHyphen, noBracket⟩ noRange
  · cases read
    exact ⟨rfl, rfl⟩

theorem setRange_escape {members : Set Char} (escapes : EscapesTo properties text members rest)
    (noRange : ¬MakesRange rest)
    (read : setRange properties Flags.initial ('\\' :: text) = some (found, after)) :
    found.Holds members ∧ after = rest := by
  obtain ⟨low, item, -⟩ := Option.bind_eq_some_iff.mp read
  obtain ⟨set, rfl, holds⟩ := escapes item
  obtain ⟨rfl, rfl⟩ := setRange_alone item rfl noRange read
  exact ⟨holds, rfl⟩

theorem setRange_between {low high : Char} {behind : List Char}
    (first : setItem properties Flags.initial text = some (.char low, '-' :: behind))
    (second : setItem properties Flags.initial behind = some (.char high, rest))
    (noHyphen : behind.head? ≠ some '-') (noBracket : behind.head? ≠ some ']')
    (read : setRange properties Flags.initial text = some (found, after)) :
    found.Holds (Set.Icc low high) ∧ after = rest := by
  have makes : ¬(afterHyphen? Flags.initial behind = some ']' ∨
      afterHyphen? Flags.initial behind = some '-') := not_or.mpr ⟨noBracket, noHyphen⟩
  rw [setRange, first] at read
  simp only [Option.bind_eq_bind, Option.bind_some, skip_initial] at read
  rw [if_neg makes, second, Option.bind_some] at read
  obtain ⟨set, isRange, read⟩ := Option.bind_eq_some_iff.mp read
  obtain ⟨ordered, same⟩ := Option.ite_none_right_eq_some.mp isRange
  obtain ⟨rfl, rfl⟩ := Prod.mk.inj (Option.some.inj read)
  obtain rfl := Option.some.inj same
  exact ⟨CharSet.holds_range ordered, rfl⟩

end

theorem exists_sign_of_setOperator? {text : List Char} {found : SetOperator × List Char}
    (read : setOperator? text = some found) :
    ∃ sign ∈ ['&', '-', '~'], ∃ rest, text = sign :: sign :: rest := by
  fun_cases setOperator? text with
  | case1 rest => exact ⟨'&', by decide, rest, rfl⟩
  | case2 rest => exact ⟨'-', by decide, rest, rfl⟩
  | case3 rest => exact ⟨'~', by decide, rest, rfl⟩
  | case4 => simp_all [setOperator?]

theorem SetChar.StartsItem.exists_cons {c : SetChar} {after : List Char}
    (starts : c.StartsItem after) : ∃ first rest, c.text ++ after = first :: rest ∧
      first ≠ ']' ∧ first ≠ '[' ∧ setOperator? (first :: rest) = none := by
  cases c with
  | plain c =>
      obtain ⟨special, noOperator⟩ := starts
      simp only [List.mem_cons, List.not_mem_nil, or_false, not_or] at special
      refine ⟨c, after, rfl, special.2.1, special.1, ?_⟩
      refine Option.eq_none_iff_forall_ne_some.mpr fun found read => ?_
      obtain ⟨sign, among, rest, twice⟩ := exists_sign_of_setOperator? read
      obtain ⟨rfl, rfl⟩ := List.cons.inj twice
      exact noOperator among rfl
  | escaped text c spells =>
      exact ⟨'\\', text ++ after, rfl, by decide, by decide, rfl⟩

/-! ## What follows a set -/

namespace SetItems

variable (items : SetItems)

/-- Items end with a closing bracket. -/
theorem exists_text_eq : ∃ front, items.text = front ++ [']'] := by
  induction items with
  | close => exact ⟨[], rfl⟩
  | char c rest ih =>
      obtain ⟨front, same⟩ := ih
      exact ⟨c.text ++ front, by simp [text, same]⟩
  | range low high rest ih =>
      obtain ⟨front, same⟩ := ih
      exact ⟨low.text ++ '-' :: high.text ++ front, by simp [text, same]⟩
  | letterClass isNegated letters rest ih =>
      obtain ⟨front, same⟩ := ih
      exact ⟨'\\' :: letters.letter isNegated :: front, by simp [text, same]⟩
  | property isNegated name rest ih =>
      obtain ⟨front, same⟩ := ih
      exact ⟨'\\' :: name.text isNegated ++ front, by simp [text, same]⟩
  | namedClass isNegated named rest ih =>
      obtain ⟨front, same⟩ := ih
      exact ⟨'[' :: named.text isNegated ++ front, by simp [text, same]⟩
  | nested isNegated first inner rest _ ih =>
      obtain ⟨front, same⟩ := ih
      exact ⟨'[' :: caret isNegated ++ first.text ++ inner.text ++ front, by simp [text, same]⟩
  | operation operator rest ih =>
      obtain ⟨front, same⟩ := ih
      exact ⟨operator.sign :: operator.sign :: front, by simp [text, same]⟩

theorem head?_text_append (more : List Char) : (items.text ++ more).head? = items.text.head? := by
  obtain ⟨front, same⟩ := items.exists_text_eq
  rw [same]
  cases front <;> rfl

variable {items} {more : List Char}

/-- Whether items make a range with what stands before them does not depend on what follows. -/
theorem not_makesRange_append (noRange : ¬MakesRange items.text) :
    ¬MakesRange (items.text ++ more) := by
  rintro ⟨after, split, noHyphen, noBracket⟩
  obtain ⟨front, same⟩ := items.exists_text_eq
  rw [same] at split noRange
  cases front with
  | nil => cases split
  | cons first front =>
      obtain ⟨rfl, rfl⟩ := List.cons.inj split
      refine noRange ⟨front ++ [']'], rfl, ?_⟩
      cases front with
      | nil => exact absurd rfl noBracket
      | cons second front => exact ⟨noHyphen, noBracket⟩

end SetItems

theorem SetChar.StartsItem.append {c : SetChar} {items : SetItems} {more : List Char}
    (starts : c.StartsItem items.text) : c.StartsItem (items.text ++ more) := by
  cases c with
  | plain c => exact ⟨starts.1, by rw [items.head?_text_append]; exact starts.2⟩
  | escaped => trivial

theorem SetFront.EndsBefore.append {front : SetFront} {isNegated : Bool} {items : SetItems}
    {more : List Char} (ends : front.EndsBefore isNegated items.text) :
    front.EndsBefore isNegated (items.text ++ more) := by
  cases front with
  | bracket => trivial
  | hyphens count =>
      cases count with
      | zero => simpa only [SetFront.EndsBefore, items.head?_text_append] using ends
      | succ count => simpa only [SetFront.EndsBefore, items.head?_text_append] using ends

theorem SetChar.StartsItem.hyphen {c : SetChar} {after more : List Char}
    (starts : c.StartsItem ('-' :: after)) : c.StartsItem ('-' :: more) := by
  cases c with
  | plain c => exact starts
  | escaped => trivial

theorem SetChar.EndsRange.head?_ne {c : SetChar} (ends : c.EndsRange) (more : List Char) :
    (c.text ++ more).head? ≠ some '-' ∧ (c.text ++ more).head? ≠ some ']' := by
  cases c with
  | plain c => simp_all [SetChar.EndsRange, SetChar.text]
  | escaped text c spells => simp [SetChar.text]

theorem NamedClass.exists_text_eq (isNegated : Bool) (named : NamedClass) :
    ∃ front, named.text isNegated = front ++ [']'] ∧ ']' ∉ front := by
  refine ⟨':' :: caret isNegated ++ named.name.toList ++ [':'], by simp [NamedClass.text], ?_⟩
  cases isNegated <;> cases named <;> decide

/-- What ends with a closing bracket starts with a class if it does with what follows. -/
theorem NamedClass.prefix_of_append {isNegated : Bool} {named : NamedClass} {text more : List Char}
    (starts : named.text isNegated <+: text ++ [']'] ++ more) :
    named.text isNegated <+: text ++ [']'] := by
  rcases List.prefix_or_prefix_of_prefix starts (List.prefix_append _ more) with within | beyond
  · exact within
  · obtain ⟨front, same, noBracket⟩ := named.exists_text_eq isNegated
    obtain ⟨rest, split⟩ := beyond
    rw [same] at split ⊢
    rcases List.eq_nil_or_concat rest with rfl | ⟨rest, last, rfl⟩
    · rw [← split, List.append_nil]
    · rw [List.concat_eq_append, ← List.append_assoc] at split
      obtain ⟨rfl, -⟩ := List.append_inj' split rfl
      simp at noBracket

/-- A set that does not start like a class with a name is not read as one. -/
theorem namedSet_eq_none_of_nested {isNegated : Bool} {front : SetFront} {inner others : SetItems}
    (noName : ∀ negated named, ¬NamedClass.text negated named <+:
      caret isNegated ++ front.text ++ inner.text ++ others.text) (more : List Char) :
    namedSet (caret isNegated ++ front.text ++ (inner.text ++ (others.text ++ more))) = none := by
  refine Option.eq_none_iff_forall_ne_some.mpr fun found read => ?_
  obtain ⟨negated, named, starts⟩ := exists_prefix_of_namedSet read
  obtain ⟨last, same⟩ := others.exists_text_eq
  have within : NamedClass.text negated named <+:
      caret isNegated ++ front.text ++ inner.text ++ last ++ [']'] ++ more := by
    simpa [same] using starts
  refine noName negated named ?_
  rw [same, ← List.append_assoc]
  exact NamedClass.prefix_of_append within

section

variable {inner : List Char → Option ((CharSet × Nat) × List Char)} {bound : Nat}
  {pending : Pending} {items : Items}

theorem exists_bound_of_setItems {text : List Char} {found : (CharSet × Nat) × List Char}
    (read : setItems properties inner Flags.initial bound pending items text = some found) :
    ∃ less, bound = less + 1 := by
  cases bound with
  | zero => cases read
  | succ bound => exact ⟨bound, rfl⟩

theorem setItems_named {text after : List Char} {isNegated : Bool} {set : CharSet}
    (named : namedSet text = some ((isNegated, set), after)) :
    setItems properties inner Flags.initial (bound + 1) pending items ('[' :: text) =
      setItems properties inner Flags.initial bound pending
        (items.add (if isNegated then set.complement else set) 0) after := by
  rw [setItems, skip_initial]
  dsimp only
  rw [if_neg (by decide), if_pos rfl, named]
  cases isNegated <;> rfl

theorem setItems_nested {text : List Char} (foreign : namedSet text = none) :
    setItems properties inner Flags.initial (bound + 1) pending items ('[' :: text) =
      (inner text).bind fun ((set, depth), rest) =>
        setItems properties inner Flags.initial bound pending (items.add set depth) rest := by
  rw [setItems, skip_initial]
  dsimp only
  rw [if_neg (by decide), if_pos rfl, foreign]
  rfl

theorem setItems_operation (operator : SetOperator) (text : List Char) :
    setItems properties inner Flags.initial (bound + 1) pending items
        (operator.sign :: operator.sign :: text) =
      setItems properties inner Flags.initial bound
        (some (operator, pending.apply Flags.initial items)) .none text := by
  cases operator <;> rfl

theorem setItems_item {text : List Char}
    (starts : ∃ first rest, text = first :: rest ∧ first ≠ ']' ∧ first ≠ '[' ∧
      setOperator? (first :: rest) = none) :
    setItems properties inner Flags.initial (bound + 1) pending items text =
      (setRange properties Flags.initial text).bind fun (set, rest) =>
        setItems properties inner Flags.initial bound pending (items.add set 0) rest := by
  obtain ⟨first, rest, rfl, noClose, noOpen, noOperator⟩ := starts
  rw [setItems]
  simp only [skip_initial]
  rw [if_neg noClose, if_neg noOpen, noOperator]
  rfl

end

/-! ## Brackets -/

theorem holds_none : Items.none.set.Holds ∅ :=
  CharSet.holds_empty

theorem exists_leadingHyphens {count bound : Nat} (enough : count < bound) {items : Items}
    {members : Set Char} (holds : items.set.Holds members) {after : List Char}
    (ends : after.head? ≠ some '-') :
    ∃ front : Items, leadingHyphens Flags.initial bound items (List.replicate count '-' ++ after) =
        (front, after) ∧ front.count = items.count + count ∧
      front.set.Holds (members ∪ {c | c ∈ List.replicate count '-'}) := by
  induction count generalizing bound items members with
  | zero =>
      obtain ⟨bound, rfl⟩ := Nat.exists_eq_add_one_of_ne_zero (Nat.ne_zero_of_lt enough)
      refine ⟨items, ?_, rfl, by simpa using holds⟩
      rw [List.replicate_zero, List.nil_append, leadingHyphens]
      split
      · next rest same =>
          obtain rfl : after = '-' :: rest := same
          exact absurd rfl ends
      · rfl
  | succ count ih =>
      obtain ⟨bound, rfl⟩ := Nat.exists_eq_add_one_of_ne_zero (Nat.ne_zero_of_lt enough)
      have further : (items.add (.single '-') 0).set.Holds (members ∪ {'-'}) :=
        holds.union (CharSet.holds_single '-')
      obtain ⟨front, read, total, holdsFront⟩ := ih (Nat.lt_of_succ_lt_succ enough) further
      refine ⟨front, read, ?_, ?_⟩
      · rw [total, Items.add, Nat.add_right_comm, Nat.add_assoc]
      · have same : members ∪ {'-'} ∪ {c | c ∈ List.replicate count '-'} =
            members ∪ {c | c ∈ List.replicate (count + 1) '-'} := by
          ext c
          simp [List.replicate_succ, or_assoc, or_left_comm]
        exact same ▸ holdsFront

/-- A sign of a negation is read if it is there, unless something else looks like one. -/
theorem negation_caret_append {isNegated : Bool} {text : List Char}
    (noSign : isNegated = false → text.head? ≠ some '^') :
    negation (caret isNegated ++ text) = (isNegated, text) := by
  cases isNegated with
  | true => rfl
  | false =>
      unfold negation
      split
      · next rest same =>
          obtain rfl : text = '^' :: rest := same
          exact absurd rfl (noSign rfl)
      · rfl

/-- The front of a set is read as its items. -/
theorem exists_frontItems {isNegated : Bool} {front : SetFront} {after : List Char}
    (ends : front.EndsBefore isNegated after) :
    ∃ items, frontItems Flags.initial (front.text ++ after) = (items, after) ∧
      items.set.Holds front.members := by
  cases front with
  | bracket =>
      have holds := holds_none.union (CharSet.holds_single ']')
      rw [Set.empty_union] at holds
      exact ⟨Items.none.add (.single ']') 0, rfl, holds⟩
  | hyphens count =>
      have noHyphen : after.head? ≠ some '-' := by
        cases count with
        | zero => exact ends.1
        | succ count => exact ends
      have enough : count < (List.replicate count '-' ++ after).length + 1 := by
        simp only [List.length_append, List.length_replicate]
        omega
      obtain ⟨items, read, total, holds⟩ :=
        exists_leadingHyphens enough holds_none noHyphen
      rw [Set.empty_union] at holds
      refine ⟨items, ?_, holds⟩
      rw [frontItems, SetFront.text, read]
      split
      · next set deepest rest same =>
          -- Without hyphens, no closing bracket follows.
          obtain ⟨rfl, rfl⟩ := Prod.mk.inj same
          obtain rfl : count = 0 := by simpa [Items.none] using total.symm
          exact absurd rfl ends.2.1
      · next same => exact same.symm

/-- A set in brackets is read from its items, which come behind its front. -/
theorem exists_bracket_eq {isNegated : Bool} {front : SetFront} {after : List Char}
    (ends : front.EndsBefore isNegated after) (depth : Nat) :
    ∃ items, items.set.Holds front.members ∧
      bracket properties Flags.initial (depth + 1) (caret isNegated ++ front.text ++ after) =
        (setItems properties (bracket properties Flags.initial depth) Flags.initial
          (after.length + 1) none items after).bind fun ((set, nested), rest) =>
            some ((if isNegated then set.complement else set, nested + 1), rest) := by
  obtain ⟨items, read, holds⟩ := exists_frontItems ends
  have noSign : isNegated = false → (front.text ++ after).head? ≠ some '^' := by
    rintro rfl
    rcases front with _ | _ | count
    · simp [SetFront.text]
    · exact ends.2.2 rfl
    · simp [SetFront.text, List.replicate_succ]
  refine ⟨items, holds, ?_⟩
  rw [bracket, skip_initial, List.append_assoc, negation_caret_append noSign]
  simp only [read]
  cases isNegated <;> rfl

theorem pends_operation (operator : SetOperator) {left : CharSet × Nat} {lefts : Set Char}
    (holds : left.1.Holds lefts) {items : Items} {members : Set Char}
    (others : items.set.Holds members) :
    (Pending.apply Flags.initial (some (operator, left)) items).1.Holds
      (operator.members lefts members) := by
  cases operator with
  | inter => exact holds.inter others
  | minus => exact holds.minus others
  | symmetricDifference => exact holds.symmetricDifference others

/-- Whatever was listed and combined before these items, what is read from them and what follows is
what they list, as their operators combine it, and leaves what follows. -/
def SetItems.AreRead (properties : Unicode.Properties) (items : SetItems) (more : List Char) :
    Prop :=
  ∀ {depth bound : Nat} {pending : Pending} {listed : Items} {members : Set Char}
    {combined : Set Char → Set Char} {found : CharSet × Nat} {rest : List Char},
    listed.set.Holds members →
    (∀ {items : Items} {members : Set Char}, items.set.Holds members →
      (pending.apply Flags.initial items).1.Holds (combined members)) →
    setItems properties (bracket properties Flags.initial depth) Flags.initial bound pending listed
        (items.text ++ more) = some (found, rest) →
      found.1.Holds (SetItems.combine (combined (members ∪ (items.sides properties).1))
          (items.sides properties).2) ∧
        rest = more

/-- A set in brackets is read as its characters if its items are. -/
theorem bracket_of_areRead {isNegated : Bool} {front : SetFront} {items : SetItems}
    {more : List Char} (ends : front.EndsBefore isNegated items.text)
    (areRead : items.AreRead properties more) {depth : Nat} {found : CharSet × Nat}
    {rest : List Char}
    (read : bracket properties Flags.initial depth
      (caret isNegated ++ front.text ++ (items.text ++ more)) = some (found, rest)) :
    found.1.Holds (negateIf isNegated
        (SetItems.combine (front.members ∪ (items.sides properties).1)
          (items.sides properties).2)) ∧ rest = more := by
  cases depth with
  | zero => cases read
  | succ depth =>
      obtain ⟨listed, holdsFront, eq⟩ := exists_bracket_eq ends.append depth
      rw [eq] at read
      obtain ⟨⟨⟨set, nested⟩, after⟩, inside, same⟩ := Option.bind_eq_some_iff.mp read
      obtain ⟨holds, rfl⟩ := areRead holdsFront id inside
      obtain ⟨⟨rfl, rfl⟩, rfl⟩ := Option.some.inj same
      exact ⟨holds_negateIf holds, rfl⟩

section

variable {depth bound : Nat} {pending : Pending} {listed : Items} {members : Set Char}
  {others : SetItems} {more : List Char} {found : (CharSet × Nat) × List Char}

/-- An item that is neither nested nor an operator is read first, and its characters are listed. -/
theorem exists_setItems_of_item {text rest : List Char} {added : Set Char}
    (starts : ∃ first rest, text = first :: rest ∧ first ≠ ']' ∧ first ≠ '[' ∧
      setOperator? (first :: rest) = none)
    (item : ∀ {set : CharSet} {after : List Char},
      setRange properties Flags.initial text = some (set, after) → set.Holds added ∧ after = rest)
    (holds : listed.set.Holds members)
    (read : setItems properties (bracket properties Flags.initial depth) Flags.initial bound pending
      listed text = some found) :
    ∃ bound listed, listed.set.Holds (members ∪ added) ∧
      setItems properties (bracket properties Flags.initial depth) Flags.initial bound pending
        listed rest = some found := by
  obtain ⟨bound, rfl⟩ := exists_bound_of_setItems read
  rw [setItems_item starts] at read
  obtain ⟨⟨set, after⟩, first, read⟩ := Option.bind_eq_some_iff.mp read
  obtain ⟨holdsItem, rfl⟩ := item first
  exact ⟨bound, listed.add set 0, holds.union holdsItem, read⟩

theorem exists_setItems_char {c : SetChar} (starts : c.StartsItem others.text)
    (noRange : ¬MakesRange others.text) (holds : listed.set.Holds members)
    (read : setItems properties (bracket properties Flags.initial depth) Flags.initial bound pending
      listed ((SetItems.char c others).text ++ more) = some found) :
    ∃ bound listed, listed.set.Holds (members ∪ {c.char}) ∧
      setItems properties (bracket properties Flags.initial depth) Flags.initial bound pending
        listed (others.text ++ more) = some found := by
  rw [SetItems.text, List.append_assoc] at read
  refine exists_setItems_of_item starts.append.exists_cons (fun item => ?_) holds read
  obtain ⟨rfl, rfl⟩ := setRange_alone (setItem_of_startsItem starts _) rfl
    (SetItems.not_makesRange_append noRange) item
  exact ⟨CharSet.holds_single c.char, rfl⟩

theorem exists_setItems_range {low high : SetChar}
    (starts : low.StartsItem ('-' :: high.text)) (ends : high.EndsRange)
    (holds : listed.set.Holds members)
    (read : setItems properties (bracket properties Flags.initial depth) Flags.initial bound pending
      listed ((SetItems.range low high others).text ++ more) = some found) :
    ∃ bound listed, listed.set.Holds (members ∪ Set.Icc low.char high.char) ∧
      setItems properties (bracket properties Flags.initial depth) Flags.initial bound pending
        listed (others.text ++ more) = some found := by
  have whole : (SetItems.range low high others).text ++ more =
      low.text ++ '-' :: (high.text ++ (others.text ++ more)) := by simp [SetItems.text]
  rw [whole] at read
  obtain ⟨noHyphen, noBracket⟩ := ends.head?_ne (others.text ++ more)
  exact exists_setItems_of_item starts.hyphen.exists_cons
    (setRange_between (setItem_of_startsItem starts _) (setItem_of_endsRange ends _)
      noHyphen noBracket) holds read

theorem exists_setItems_escape {text : List Char} {added : Set Char}
    (escapes : EscapesTo properties (text ++ (others.text ++ more)) added (others.text ++ more))
    (noRange : ¬MakesRange others.text) (holds : listed.set.Holds members)
    (read : setItems properties (bracket properties Flags.initial depth) Flags.initial bound pending
      listed ('\\' :: text ++ others.text ++ more) = some found) :
    ∃ bound listed, listed.set.Holds (members ∪ added) ∧
      setItems properties (bracket properties Flags.initial depth) Flags.initial bound pending
        listed (others.text ++ more) = some found := by
  rw [List.append_assoc] at read
  exact exists_setItems_of_item ⟨'\\', _, rfl, by decide, by decide, rfl⟩
    (setRange_escape escapes (SetItems.not_makesRange_append noRange)) holds read

theorem exists_setItems_namedClass {isNegated : Bool} {named : NamedClass}
    (holds : listed.set.Holds members)
    (read : setItems properties (bracket properties Flags.initial depth) Flags.initial bound pending
      listed ((SetItems.namedClass isNegated named others).text ++ more) = some found) :
    ∃ bound listed, listed.set.Holds (members ∪ negateIf isNegated named.members) ∧
      setItems properties (bracket properties Flags.initial depth) Flags.initial bound pending
        listed (others.text ++ more) = some found := by
  obtain ⟨bound, rfl⟩ := exists_bound_of_setItems read
  obtain ⟨set, isNamed, holdsNamed⟩ := exists_namedSet isNegated named (others.text ++ more)
  have whole : (SetItems.namedClass isNegated named others).text ++ more =
      '[' :: (named.text isNegated ++ (others.text ++ more)) := by simp [SetItems.text]
  rw [whole, setItems_named isNamed] at read
  exact ⟨bound, _, holds.union (holds_negateIf holdsNamed), read⟩

theorem exists_setItems_nested {isNegated : Bool} {front : SetFront} {inner : SetItems}
    (ends : front.EndsBefore isNegated inner.text)
    (noName : ∀ negated named, ¬NamedClass.text negated named <+:
      caret isNegated ++ front.text ++ inner.text ++ others.text)
    (areRead : inner.AreRead properties (others.text ++ more)) (holds : listed.set.Holds members)
    (read : setItems properties (bracket properties Flags.initial depth) Flags.initial bound pending
      listed ((SetItems.nested isNegated front inner others).text ++ more) = some found) :
    ∃ bound listed, listed.set.Holds (members ∪ negateIf isNegated
        (SetItems.combine (front.members ∪ (inner.sides properties).1)
          (inner.sides properties).2)) ∧
      setItems properties (bracket properties Flags.initial depth) Flags.initial bound pending
        listed (others.text ++ more) = some found := by
  obtain ⟨bound, rfl⟩ := exists_bound_of_setItems read
  have whole : (SetItems.nested isNegated front inner others).text ++ more = '[' ::
      (caret isNegated ++ front.text ++ (inner.text ++ (others.text ++ more))) := by
    simp [SetItems.text]
  rw [whole, setItems_nested (namedSet_eq_none_of_nested noName more)] at read
  obtain ⟨⟨⟨set, nested⟩, after⟩, inside, read⟩ := Option.bind_eq_some_iff.mp read
  obtain ⟨holdsInner, rfl⟩ := bracket_of_areRead ends areRead inside
  exact ⟨bound, _, holds.union holdsInner, read⟩

end

/-- Items of a set are read as what they list and as what operators make of it. -/
theorem SetItems.areRead {items : SetItems} (readable : items.IsReadable) (more : List Char) :
    items.AreRead properties more := by
  intro depth bound pending listed members combined found rest holds pends read
  induction items generalizing depth bound pending listed members combined more rest found with
  | close =>
      cases bound with
      | zero => cases read
      | succ bound =>
          obtain ⟨rfl, rfl⟩ := Prod.mk.inj (Option.some.inj read)
          refine ⟨?_, rfl⟩
          simpa [SetItems.sides, SetItems.combine] using pends holds
  | char c others ih =>
      obtain ⟨starts, noRange, readable⟩ := readable
      obtain ⟨bound, listed, holds, read⟩ := exists_setItems_char starts noRange holds read
      have result := ih readable more holds pends read
      rwa [Set.union_assoc] at result
  | range low high others ih =>
      obtain ⟨starts, ends, readable⟩ := readable
      obtain ⟨bound, listed, holds, read⟩ := exists_setItems_range starts ends holds read
      have result := ih readable more holds pends read
      rwa [Set.union_assoc] at result
  | letterClass isNegated letters others ih =>
      obtain ⟨noRange, readable⟩ := readable
      have escapes : EscapesTo properties ([letters.letter isNegated] ++ (others.text ++ more))
          (negateIf isNegated letters.members) (others.text ++ more) :=
        escapesTo_letterClass isNegated letters _
      obtain ⟨bound, listed, holds, read⟩ := exists_setItems_escape escapes noRange holds read
      have result := ih readable more holds pends read
      rwa [Set.union_assoc] at result
  | property isNegated name others ih =>
      obtain ⟨noRange, readable⟩ := readable
      have escapes := @escapesTo_property properties isNegated name (others.text ++ more)
      obtain ⟨bound, listed, holds, read⟩ := exists_setItems_escape escapes noRange holds read
      have result := ih readable more holds pends read
      rwa [Set.union_assoc] at result
  | namedClass isNegated named others ih =>
      obtain ⟨bound, listed, holds, read⟩ := exists_setItems_namedClass holds read
      have result := ih readable more holds pends read
      rwa [Set.union_assoc] at result
  | nested isNegated front inner others ihInner ih =>
      obtain ⟨ends, noName, readableInner, readable⟩ := readable
      obtain ⟨bound, listed, holds, read⟩ :=
        exists_setItems_nested ends noName (ihInner readableInner _) holds read
      have result := ih readable more holds pends read
      rwa [Set.union_assoc] at result
  | operation operator others ih =>
      obtain ⟨bound, rfl⟩ := exists_bound_of_setItems read
      rw [SetItems.text, List.cons_append, List.cons_append, setItems_operation] at read
      have result := ih readable more holds_none (pends_operation operator (pends holds)) read
      rw [Set.empty_union] at result
      simpa [SetItems.sides, SetItems.combine] using result

/-- A set in brackets is read as its characters. -/
theorem bracket_reads (set : BracketSet) {depth : Nat} {more rest : List Char}
    {found : CharSet × Nat}
    (read : bracket properties Flags.initial depth
      (caret set.isNegated ++ set.front.text ++ (set.items.text ++ more)) = some (found, rest)) :
    found.1.Holds (set.members properties) ∧ rest = more :=
  bracket_of_areRead set.endsBefore (SetItems.areRead set.isReadable more) read

end Pattern
end GatewayTelemetry
