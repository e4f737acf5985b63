import GatewayTelemetry.Proofs.Bytes.Spread
import GatewayTelemetry.Proofs.Json.Quoting

/-!
# Reading strings byte by byte

A reader that is given a text, and then the same text byte by byte, either refuses both or reads
both up to the same place. What it reads is the same but for the strings: a character that stands in
the text is spread, and one that is escaped is not, since its escape is ASCII.
-/

namespace GatewayTelemetry

/-! ## Outcomes -/

/-- Both outcomes are errors that go together, or both are results that are related. -/
inductive Agree {ε η α β : Type} (faults : ε → η → Prop) (related : α → β → Prop) :
    Except ε α → Except η β → Prop
  | refused {error : ε} {other : η} (same : faults error other) :
      Agree faults related (.error error) (.error other)
  | read {a : α} {b : β} (same : related a b) : Agree faults related (.ok a) (.ok b)

namespace Agree

variable {ε η α β γ δ : Type} {faults : ε → η → Prop} {related : α → β → Prop} {next : γ → δ → Prop}
  {x : Except ε α} {y : Except η β}

/-- What goes on from related results in agreeing ways comes to agreeing outcomes. -/
theorem bind {f : α → Except ε γ} {g : β → Except η δ} (first : Agree faults related x y)
    (rest : ∀ a b, related a b → Agree faults next (f a) (g b)) :
    Agree faults next (x >>= f) (y >>= g) := by
  cases first with
  | refused same => exact .refused same
  | read same => exact rest _ _ same

theorem map {f : α → γ} {g : β → δ} (first : Agree faults related x y)
    (rest : ∀ a b, related a b → next (f a) (g b)) : Agree faults next (x.map f) (y.map g) := by
  cases first with
  | refused same => exact .refused same
  | read same => exact .read (rest _ _ same)

theorem mapError {ζ θ : Type} {worse : ζ → θ → Prop} {f : ε → ζ} {g : η → θ}
    (first : Agree faults related x y) (rest : ∀ error other, faults error other →
      worse (f error) (g other)) :
    Agree worse related (x.mapError f) (y.mapError g) := by
  cases first with
  | refused same => exact .refused (rest _ _ same)
  | read same => exact .read same

theorem mono {others : α → β → Prop} (first : Agree faults related x y)
    (weaker : ∀ a b, related a b → others a b) : Agree faults others x y := by
  cases first with
  | refused same => exact .refused same
  | read same => exact .read (weaker _ _ same)

/-- Outcomes that depend on the same condition agree if they do so in both cases. -/
theorem ite {p : Prop} [Decidable p] {otherwise : Except ε α} {otherwiseToo : Except η β}
    (yes : Agree faults related x y) (no : Agree faults related otherwise otherwiseToo) :
    Agree faults related (if p then x else otherwise) (if p then y else otherwiseToo) := by
  split
  · exact yes
  · exact no

end Agree

namespace Json

/-- Both outcomes are errors, whatever they say, or both are results that are related. -/
abbrev Alike {ε α β : Type} (related : α → β → Prop) : Except ε α → Except ε β → Prop :=
  Agree (fun _ _ => True) related

namespace Alike

variable {ε α β : Type} {related : α → β → Prop} {x : Except ε α} {y : Except ε β}

theorem of_errors (first : ∃ error, x = .error error) (second : ∃ error, y = .error error) :
    Alike related x y := by
  obtain ⟨error, rfl⟩ := first
  obtain ⟨other, rfl⟩ := second
  exact .refused trivial

theorem of_iff (there : ∀ a, x = .ok a → ∃ b, y = .ok b ∧ related a b)
    (back : ∀ b, y = .ok b → ∃ a, x = .ok a) : Alike related x y := by
  cases x with
  | ok a =>
      obtain ⟨b, rfl, same⟩ := there a rfl
      exact .read same
  | error error =>
      cases y with
      | ok b =>
          obtain ⟨a, absurdity⟩ := back b rfl
          cases absurdity
      | error other => exact .refused trivial

theorem mapError {η : Type} (first : Alike related x y) (f g : ε → η) :
    Alike related (x.mapError f) (y.mapError g) :=
  Agree.mapError first fun _ _ _ => trivial

end Alike

/-- What is left of a text after some of its characters, and of its bytes. -/
def Rest (least : Nat) (text rest other : List Char) : Prop :=
  other = spread rest ∧ ∃ taken, text = taken ++ rest ∧ least ≤ taken.length

namespace Rest

variable {least more : Nat} {text middle rest other : List Char}

theorem refl (text : List Char) : Rest 0 text text (spread text) :=
  ⟨rfl, [], rfl, Nat.le_refl 0⟩

theorem tail (c : Char) (text : List Char) : Rest 1 (c :: text) text (spread text) :=
  ⟨rfl, [c], rfl, Nat.le_refl 1⟩

theorem trans {between : List Char} (first : Rest least text middle between)
    (second : Rest more middle rest other) : Rest (least + more) text rest other := by
  obtain ⟨-, taken, rfl, enough⟩ := first
  obtain ⟨same, further, rfl, enoughToo⟩ := second
  refine ⟨same, taken ++ further, (List.append_assoc ..).symm, ?_⟩
  rw [List.length_append]
  exact Nat.add_le_add enough enoughToo

theorem weaken {fewer : Nat} (first : Rest least text rest other) (fewer_le : fewer ≤ least) :
    Rest fewer text rest other := by
  obtain ⟨same, taken, split, enough⟩ := first
  exact ⟨same, taken, split, Nat.le_trans fewer_le enough⟩

theorem cons (c : Char) (first : Rest least text rest other) :
    Rest (least + 1) (c :: text) rest other := by
  obtain ⟨same, taken, rfl, enough⟩ := first
  exact ⟨same, c :: taken, rfl, Nat.succ_le_succ enough⟩

theorem later (c : Char) (first : Rest least text rest other) : Rest least (c :: text) rest other :=
  (first.cons c).weaken (Nat.le_succ least)

theorem length_le (first : Rest least text rest other) : rest.length + least ≤ text.length := by
  obtain ⟨-, taken, rfl, enough⟩ := first
  rw [List.length_append]
  omega

theorem length_spread_le (first : Rest least text rest other) :
    other.length ≤ (spread text).length := by
  obtain ⟨rfl, taken, rfl, -⟩ := first
  rw [spread_append, List.length_append]
  exact Nat.le_add_left _ _

theorem length_spread_lt (first : Rest (least + 1) text rest other) :
    other.length < (spread text).length := by
  obtain ⟨rfl, taken, rfl, enough⟩ := first
  have filled : taken ≠ [] := List.length_pos_iff.mp (Nat.lt_of_lt_of_le (Nat.succ_pos _) enough)
  have positive := List.length_pos_iff.mpr (spread_ne_nil filled)
  rw [spread_append, List.length_append]
  omega

end Rest

/-- Results of readers that are related, with what is left of the text and of its bytes. -/
def Results {α β : Type} (related : α → β → Prop) (least : Nat) (text : List Char)
    (a : α × List Char) (b : β × List Char) : Prop :=
  related a.1 b.1 ∧ Rest least text a.2 b.2

namespace Results

variable {α β : Type} {related : α → β → Prop} {least more : Nat} {text rest other : List Char}
  {a : α × List Char} {b : β × List Char}

/-- What is read from the rest of a text is read from the text. -/
theorem after (left : Rest more text rest other) (found : Results related least rest a b) :
    Results related least text a b :=
  ⟨found.1, (left.trans found.2).weaken (Nat.le_add_left least more)⟩

theorem later (c : Char) (found : Results related least text a b) :
    Results related least (c :: text) a b :=
  found.after (.tail c text)

end Results

/-! ## Blanks and words -/

theorem isAscii_of_isSpace (c : Char) (space : isSpace c = true) : IsAscii c := by
  simp only [isSpace, Bool.or_eq_true, beq_iff_eq] at space
  rcases space with ((rfl | rfl) | rfl) | rfl <;> decide

theorem rest_dropWhile {holds : Char → Bool} (onlyAscii : ∀ c, holds c = true → IsAscii c)
    (text : List Char) : Rest 0 text (text.dropWhile holds) ((spread text).dropWhile holds) :=
  ⟨dropWhile_spread onlyAscii text, text.takeWhile holds, List.takeWhile_append_dropWhile.symm,
    Nat.zero_le _⟩

theorem rest_skipSpace (text : List Char) :
    Rest 0 text (skipSpace text) (skipSpace (spread text)) :=
  rest_dropWhile isAscii_of_isSpace text

theorem alike_expectWord {word : List Char} (ascii : OnlyAscii word) (text : List Char) :
    Alike (Rest 0 text) (expectWord word text) (expectWord word (spread text)) := by
  induction word generalizing text with
  | nil =>
      rw [expectWord, expectWord]
      exact .read (.refl text)
  | cons expected word ih =>
      cases text with
      | nil => exact .refused trivial
      | cons c text =>
          by_cases same : c = expected
          · subst same
            rw [spread_cons_of_isAscii ascii.head, expectWord, expectWord, if_pos rfl, if_pos rfl]
            exact (ih ascii.tail text).mono fun _ _ left => left.later c
          · obtain ⟨d, rest, split, avoids⟩ := exists_spread_eq_cons_avoiding c text
            rw [split, expectWord, expectWord, if_neg same, if_neg (avoids _ ascii.head same)]
            exact .refused trivial

/-! ## Escapes -/

theorem isAscii_of_hexValue? {c : Char} {value : Nat} (digit : Text.hexValue? c = some value) :
    IsAscii c := by
  refine Nat.lt_of_not_le fun high => ?_
  have foreign : ¬IsAscii c := Nat.not_lt.mpr high
  have notLower : ¬('a' ≤ c ∧ c ≤ 'f') := fun within =>
    foreign (Nat.lt_of_le_of_lt (UInt32.le_iff_toNat_le.mp within.2) (by decide))
  have notUpper : ¬('A' ≤ c ∧ c ≤ 'F') := fun within =>
    foreign (Nat.lt_of_le_of_lt (UInt32.le_iff_toNat_le.mp within.2) (by decide))
  rw [Text.hexValue?, if_neg fun decimal => foreign (isAscii_of_isDigit c decimal), if_neg notLower,
    if_neg notUpper] at digit
  cases digit

theorem hexEscape_eq_ok {text : List Char} {result : Nat × List Char} :
    hexEscape text = .ok result ↔ ∃ a b c d rest first second third fourth,
      text = a :: b :: c :: d :: rest ∧ Text.hexValue? a = some first ∧
      Text.hexValue? b = some second ∧ Text.hexValue? c = some third ∧
      Text.hexValue? d = some fourth ∧
      result = (((first * 16 + second) * 16 + third) * 16 + fourth, rest) := by
  constructor
  · intro read
    unfold hexEscape at read
    split at read
    · cases read
    · split at read
      · next a b c d rest _ =>
          split at read
          · next first second third fourth hasFirst hasSecond hasThird hasFourth =>
              exact ⟨a, b, c, d, rest, first, second, third, fourth, rfl, hasFirst, hasSecond,
                hasThird, hasFourth, (Except.ok.inj read).symm⟩
          · cases read
      · cases read
  · rintro ⟨a, b, c, d, rest, first, second, third, fourth, rfl, hasFirst, hasSecond, hasThird,
      hasFourth, rfl⟩
    have enough : ¬byteCount (a :: b :: c :: d :: rest) < 4 := by
      have := length_le_byteCount (a :: b :: c :: d :: rest)
      simp only [List.length_cons] at this
      omega
    rw [hexEscape, if_neg enough, hasFirst, hasSecond, hasThird, hasFourth]

theorem alike_hexEscape (text : List Char) :
    Alike (Results Eq 4 text) (hexEscape text) (hexEscape (spread text)) := by
  refine .of_iff ?_ ?_
  · intro result read
    obtain ⟨a, b, c, d, rest, first, second, third, fourth, rfl, hasFirst, hasSecond, hasThird,
      hasFourth, rfl⟩ := hexEscape_eq_ok.mp read
    refine ⟨_, hexEscape_eq_ok.mpr ⟨a, b, c, d, spread rest, first, second, third, fourth, ?_,
      hasFirst, hasSecond, hasThird, hasFourth, rfl⟩, rfl, rfl, [a, b, c, d], rfl, Nat.le_refl 4⟩
    rw [spread_cons_of_isAscii (isAscii_of_hexValue? hasFirst),
      spread_cons_of_isAscii (isAscii_of_hexValue? hasSecond),
      spread_cons_of_isAscii (isAscii_of_hexValue? hasThird),
      spread_cons_of_isAscii (isAscii_of_hexValue? hasFourth)]
  · intro result read
    obtain ⟨a, b, c, d, rest, _, _, _, _, starts, hasFirst, hasSecond, hasThird, hasFourth, rfl⟩ :=
      hexEscape_eq_ok.mp read
    obtain ⟨afterFirst, rfl, second⟩ :=
      eq_cons_of_spread_eq_cons (isAscii_of_hexValue? hasFirst) starts
    obtain ⟨afterSecond, rfl, third⟩ :=
      eq_cons_of_spread_eq_cons (isAscii_of_hexValue? hasSecond) second.symm
    obtain ⟨afterThird, rfl, fourth⟩ :=
      eq_cons_of_spread_eq_cons (isAscii_of_hexValue? hasThird) third.symm
    obtain ⟨afterFourth, rfl, -⟩ :=
      eq_cons_of_spread_eq_cons (isAscii_of_hexValue? hasFourth) fourth.symm
    exact ⟨_, hexEscape_eq_ok.mpr ⟨a, b, c, d, afterFourth, _, _, _, _, rfl, hasFirst, hasSecond,
      hasThird, hasFourth, rfl⟩⟩

theorem secondHalf_of_not_backslash (high : Nat) {c : Char} (other : c ≠ '\\') (text : List Char) :
    ∃ fault, secondHalf high (c :: text) = .error fault := by
  unfold secondHalf
  split
  · exact ⟨_, rfl⟩
  · exact ⟨_, rfl⟩
  · next same => exact absurd (List.cons.inj same).1 other
  · exact ⟨_, rfl⟩
  · exact ⟨_, rfl⟩

theorem secondHalf_of_not_mark (high : Nat) {c : Char} (other : c ≠ 'u') (text : List Char) :
    ∃ fault, secondHalf high ('\\' :: c :: text) = .error fault := by
  unfold secondHalf
  split
  · exact ⟨_, rfl⟩
  · exact ⟨_, rfl⟩
  · next same => exact absurd (List.cons.inj (List.cons.inj same).2).1 other
  · exact ⟨_, rfl⟩
  · exact ⟨_, rfl⟩

theorem alike_secondHalf (high : Nat) (text : List Char) :
    Alike (Results Eq 1 text) (secondHalf high text) (secondHalf high (spread text)) := by
  cases text with
  | nil => exact .refused trivial
  | cons c text =>
      by_cases backslash : c = '\\'
      · subst backslash
        rw [spread_cons_of_isAscii (by decide)]
        cases text with
        | nil => exact .refused trivial
        | cons d text =>
            by_cases mark : d = 'u'
            · subst mark
              rw [spread_cons_of_isAscii (by decide)]
              refine (alike_hexEscape text).bind ?_
              rintro ⟨low, rest⟩ ⟨other, others⟩ ⟨rfl, left⟩
              dsimp only
              split
              · exact .read ⟨rfl, ((left.cons 'u').cons '\\').weaken (by decide)⟩
              · exact .refused trivial
            · obtain ⟨e, rest, split, avoids⟩ := exists_spread_eq_cons_avoiding d text
              rw [split]
              exact .of_errors (secondHalf_of_not_mark high mark text)
                (secondHalf_of_not_mark high (avoids 'u' (by decide) mark) rest)
      · obtain ⟨d, rest, split, avoids⟩ := exists_spread_eq_cons_avoiding c text
        rw [split]
        exact .of_errors (secondHalf_of_not_backslash high backslash text)
          (secondHalf_of_not_backslash high (avoids '\\' (by decide) backslash) rest)

theorem alike_unicodeEscape (text : List Char) :
    Alike (Results Eq 1 text) (unicodeEscape text) (unicodeEscape (spread text)) := by
  refine (alike_hexEscape text).bind ?_
  rintro ⟨unit, rest⟩ ⟨other, others⟩ ⟨rfl, left⟩
  dsimp only
  split
  · exact .refused trivial
  · split
    · obtain rfl := left.1
      refine (alike_secondHalf unit rest).mono fun a b ⟨same, further⟩ => ⟨same, ?_⟩
      exact (left.trans further).weaken (by decide)
    · exact .read ⟨rfl, left.weaken (by decide)⟩

theorem escapedChar?_of_not_isAscii {c : Char} (foreign : ¬IsAscii c) : escapedChar? c = none := by
  simp (disch := decide) only [escapedChar?, ne_of_not_isAscii foreign, if_false]

theorem escapeSequence_of_not_isAscii {c : Char} (foreign : ¬IsAscii c) (text : List Char) :
    ∃ fault, escapeSequence (c :: text) = .error fault := by
  rw [escapeSequence, if_neg (ne_of_not_isAscii foreign (by decide)),
    escapedChar?_of_not_isAscii foreign]
  exact ⟨_, rfl⟩

theorem alike_escapeSequence (text : List Char) :
    Alike (Results Eq 1 text) (escapeSequence text) (escapeSequence (spread text)) := by
  cases text with
  | nil => exact .refused trivial
  | cons c text =>
      by_cases ascii : IsAscii c
      · rw [spread_cons_of_isAscii ascii, escapeSequence, escapeSequence]
        split
        · exact (alike_unicodeEscape text).mono fun _ _ found => found.later c
        · cases escapedChar? c with
          | none => exact .refused trivial
          | some plain => exact .read ⟨rfl, .tail c text⟩
      · obtain ⟨d, rest, split, foreign⟩ := exists_spread_eq_cons ascii text
        rw [split]
        exact .of_errors (escapeSequence_of_not_isAscii ascii text)
          (escapeSequence_of_not_isAscii foreign rest)

/-! ## Contents -/

/-- Characters with some that are not ASCII spread over their bytes. -/
inductive Respelled : List Char → List Char → Prop
  | nil : Respelled [] []
  | kept (c : Char) {text other : List Char} (later : Respelled text other) :
      Respelled (c :: text) (c :: other)
  | spread {c : Char} (foreign : ¬IsAscii c) {text other : List Char}
      (later : Respelled text other) : Respelled (c :: text) (byteChars c ++ other)

theorem Respelled.refl (text : List Char) : Respelled text text := by
  induction text with
  | nil => exact .nil
  | cons c text ih => exact .kept c ih

/-- A character that is not ASCII stands for itself in a string. -/
theorem contents_cons_of_not_isAscii {c : Char} (foreign : ¬IsAscii c) (bound : Nat)
    (text : List Char) :
    contents (bound + 1) (c :: text) =
      (contents bound text).map fun read => (c :: read.1, read.2) := by
  have noControl : ¬c.toNat < 0x20 := fun control =>
    foreign (Nat.lt_trans control (by decide))
  exact contents_cons (ne_of_not_isAscii foreign (by decide))
    (ne_of_not_isAscii foreign (by decide)) noControl bound text

theorem contents_append_of_not_isAscii {front : List Char} (foreign : ∀ c ∈ front, ¬IsAscii c)
    (bound : Nat) (text : List Char) :
    contents (front.length + bound) (front ++ text) =
      (contents bound text).map fun read => (front ++ read.1, read.2) := by
  induction front with
  | nil =>
      rw [List.length_nil, Nat.zero_add, List.nil_append]
      cases contents bound text <;> rfl
  | cons c front ih =>
      rw [List.length_cons, Nat.add_right_comm, List.cons_append,
        contents_cons_of_not_isAscii (foreign c List.mem_cons_self),
        ih fun d among => foreign d (List.mem_cons_of_mem c among)]
      cases contents bound text <;> rfl

section

variable {bound more : Nat} {c : Char} {text : List Char}

/-- An ASCII character in a string is read from a text as it is from its bytes, if all that can
follow it is. -/
theorem alike_contents_cons
    (later : ∀ {rest : List Char}, rest.length ≤ bound → (spread rest).length ≤ more →
      Alike (Results Respelled 1 rest) (contents bound rest) (contents more (spread rest)))
    (enough : text.length ≤ bound) (enoughToo : (spread text).length ≤ more) :
    Alike (Results Respelled 1 (c :: text)) (contents (bound + 1) (c :: text))
      (contents (more + 1) (c :: spread text)) := by
  rw [contents, contents]
  refine .ite (.read ⟨.nil, .tail c text⟩) (.ite ?_ (.ite (.refused trivial) ?_))
  · refine (alike_escapeSequence text).bind ?_
    rintro ⟨plain, rest⟩ ⟨other, others⟩ ⟨rfl, left⟩
    have shorter := left.length_le
    have shorterToo := left.length_spread_le
    obtain rfl := left.1
    dsimp only at shorter shorterToo
    refine (later (by omega) (by omega)).bind ?_
    rintro ⟨chars, after⟩ ⟨charsToo, afterToo⟩ ⟨same, behind⟩
    exact .read ⟨same.kept plain, ((left.trans behind).cons c).weaken (by decide)⟩
  · refine (later enough enoughToo).bind ?_
    rintro ⟨chars, rest⟩ ⟨others, left⟩ ⟨same, behind⟩
    exact .read ⟨same.kept c, behind.later c⟩

/-- The bytes of any other character are read one by one as what they are. -/
theorem alike_contents_spread (foreign : ¬IsAscii c)
    (later : Alike (Results Respelled 1 text) (contents bound text)
      (contents more (spread text))) :
    Alike (Results Respelled 1 (c :: text)) (contents (bound + 1) (c :: text))
      (contents ((byteChars c).length + more) (spread (c :: text))) := by
  rw [spread_cons, contents_append_of_not_isAscii (not_isAscii_of_mem_byteChars foreign),
    contents_cons_of_not_isAscii foreign]
  refine later.map ?_
  rintro ⟨chars, rest⟩ ⟨others, left⟩ ⟨same, behind⟩
  exact ⟨same.spread foreign, behind.later c⟩

theorem alike_contents (enough : text.length ≤ bound) (enoughToo : (spread text).length ≤ more) :
    Alike (Results Respelled 1 text) (contents bound text) (contents more (spread text)) := by
  induction bound generalizing more text with
  | zero =>
      obtain rfl := List.length_eq_zero_iff.mp (Nat.le_zero.mp enough)
      cases more <;> exact .refused trivial
  | succ bound ih =>
      cases text with
      | nil => cases more <;> exact .refused trivial
      | cons c text =>
          have shorter : text.length ≤ bound := Nat.le_of_succ_le_succ enough
          by_cases ascii : IsAscii c
          · rw [spread_cons_of_isAscii ascii] at enoughToo ⊢
            obtain ⟨more, rfl⟩ : ∃ fewer, more = fewer + 1 :=
              Nat.exists_eq_add_one_of_ne_zero (Nat.ne_zero_of_lt enoughToo)
            exact alike_contents_cons ih shorter (Nat.le_of_succ_le_succ enoughToo)
          · rw [spread_cons, List.length_append] at enoughToo
            obtain ⟨more, rfl⟩ := Nat.exists_eq_add_of_le (Nat.le_of_add_right_le enoughToo)
            exact alike_contents_spread ascii (ih shorter (Nat.le_of_add_le_add_left enoughToo))

end

theorem alike_string (text : List Char) :
    Alike (Results (fun a b => Respelled a.toList b.toList) 1 text) (string text)
      (string (spread text)) := by
  refine (alike_contents (Nat.le_refl _) (Nat.le_refl _)).bind ?_
  rintro ⟨chars, rest⟩ ⟨others, left⟩ ⟨same, behind⟩
  refine .read ⟨?_, behind⟩
  dsimp only
  rw [String.toList_ofList, String.toList_ofList]
  exact same

end Json
end GatewayTelemetry
