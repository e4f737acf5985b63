import Mathlib.Data.List.Forall2
import GatewayTelemetry.Proofs.Bytes.Numbers

/-!
# Reading values byte by byte

The values that are read from a text and from its bytes have the same shape, the same numbers and
the same words. Their strings and the names of their members are those of the text, with some
characters spread over their bytes.
-/

namespace GatewayTelemetry
namespace Json

mutual

/-- A value with characters in its strings and its names spread over their bytes. -/
inductive Value.Blurred : Value → Value → Prop
  | null : Value.Blurred .null .null
  | boolean (truth : Bool) : Value.Blurred (.boolean truth) (.boolean truth)
  | number (numeral : Number) : Value.Blurred (.number numeral) (.number numeral)
  | string {text other : String} (same : Respelled text.toList other.toList) :
      Value.Blurred (.string text) (.string other)
  | array {items others : List Value} (same : List.Forall₂ Value.Blurred items others) :
      Value.Blurred (.array items) (.array others)
  | object {members others : List (String × Value)}
      (same : List.Forall₂ Value.BlurredMember members others) :
      Value.Blurred (.object members) (.object others)

/-- A member with characters in its name and its value spread over their bytes. -/
inductive Value.BlurredMember : String × Value → String × Value → Prop
  | member {name other : String} {value later : Value}
      (sameName : Respelled name.toList other.toList)
      (same : Value.Blurred value later) : Value.BlurredMember (name, value) (other, later)

end

/-! ## Scalars -/

theorem scalar_of_not_isAscii {c : Char} (foreign : ¬IsAscii c) (text : List Char) :
    ∃ fault, scalar (c :: text) = .error fault := by
  have noDigit : ¬c.isDigit = true := fun digit => foreign (isAscii_of_isDigit c digit)
  refine ⟨.next .noValue (c :: text), ?_⟩
  simp (disch := decide) only [scalar, ne_of_not_isAscii foreign, noDigit, Bool.false_eq_true,
    if_false]

theorem alike_word {word : List Char} (ascii : OnlyAscii word) {a : Value}
    (same : Value.Blurred a a) (c : Char) (text : List Char) :
    Alike (Results Value.Blurred 1 (c :: text))
      (expectWord word text >>= fun rest => .ok (a, rest))
      (expectWord word (spread text) >>= fun rest => .ok (a, rest)) :=
  (alike_expectWord ascii text).bind fun _ _ left => .read ⟨same, left.cons c⟩

theorem alike_scalar (text : List Char) :
    Alike (Results Value.Blurred 1 text) (scalar text) (scalar (spread text)) := by
  cases text with
  | nil => exact .refused trivial
  | cons c text =>
      by_cases ascii : IsAscii c
      · have numbers := alike_number false (c :: text)
        rw [spread_cons_of_isAscii ascii] at numbers ⊢
        refine .ite (alike_word (by decide) .null c text) ?_
        refine .ite (alike_word (by decide) (.boolean true) c text) ?_
        refine .ite (alike_word (by decide) (.boolean false) c text) ?_
        refine .ite ?quoted (.ite ?negative (.ite ?positive (.refused trivial)))
        case quoted =>
          refine (alike_string text).bind ?_
          rintro ⟨chars, rest⟩ ⟨others, otherRest⟩ ⟨same, left⟩
          exact .read ⟨.string same, left.later c⟩
        case negative =>
          refine (alike_number true text).bind ?_
          rintro ⟨numeral, rest⟩ ⟨other, otherRest⟩ ⟨rfl, left⟩
          exact .read ⟨.number numeral, left.later c⟩
        case positive =>
          refine numbers.bind ?_
          rintro ⟨numeral, rest⟩ ⟨other, otherRest⟩ ⟨rfl, left⟩
          exact .read ⟨.number numeral, left⟩
      · obtain ⟨d, rest, split, foreign⟩ := exists_spread_eq_cons ascii text
        rw [split]
        exact .of_errors (scalar_of_not_isAscii ascii text) (scalar_of_not_isAscii foreign rest)

/-! ## Items -/

/-- What goes on behind blanks comes to like outcomes if it does so at each character. -/
theorem alike_afterSpace {α : Type} {related : α → α → Prop} {least : Nat} (text : List Char)
    {nothing : Except Fault (α × List Char)}
    {next : Char → List Char → Except Fault (α × List Char)}
    (refused : ∃ fault, nothing = .error fault)
    (kept : ∀ c rest, IsAscii c →
      Alike (Results related least (c :: rest)) (next c rest) (next c (spread rest)))
    (spreads : ∀ c rest d others, ¬IsAscii c → ¬IsAscii d → spread (c :: rest) = d :: others →
      Alike (Results related least (c :: rest)) (next c rest) (next d others)) :
    Alike (Results related least text)
      (match skipSpace text with
        | [] => nothing
        | c :: rest => next c rest)
      (match skipSpace (spread text) with
        | [] => nothing
        | c :: rest => next c rest) := by
  have left := rest_skipSpace text
  rw [left.1]
  cases start : skipSpace text with
  | nil => exact .of_errors refused refused
  | cons c rest =>
      rw [start] at left
      by_cases ascii : IsAscii c
      · rw [spread_cons_of_isAscii ascii]
        exact (kept c rest ascii).mono fun _ _ found => found.after left
      · obtain ⟨d, others, split, foreign⟩ := exists_spread_eq_cons ascii rest
        rw [split]
        exact (spreads c rest d others ascii foreign split).mono fun _ _ found => found.after left

theorem rest_cons {c d : Char} {rest others : List Char}
    (split : spread (c :: rest) = d :: others) :
    Rest 0 (c :: rest) (c :: rest) (d :: others) :=
  split ▸ Rest.refl (c :: rest)

def itemAfterComma (text : List Char) : Except Fault (Bool × List Char) :=
  match skipSpace text with
  | [] => .error (.next .endInValue [])
  | d :: rest =>
    if d = ']' then .error (.next .trailingComma (d :: rest)) else .ok (true, d :: rest)

theorem alike_itemAfterComma (text : List Char) :
    Alike (Results Eq 0 text) (itemAfterComma text) (itemAfterComma (spread text)) := by
  refine alike_afterSpace text ⟨_, rfl⟩ ?_ ?_
  · intro d rest ascii
    split
    · exact .refused trivial
    · exact .read ⟨rfl, rest_cons (spread_cons_of_isAscii ascii rest)⟩
  · intro d rest e others foreign foreignToo split
    simp (disch := decide) only [ne_of_not_isAscii foreign, ne_of_not_isAscii foreignToo, if_false]
    exact .read ⟨rfl, rest_cons split⟩

theorem alike_nextItem (first : Bool) (text : List Char) :
    Alike (Results Eq 0 text) (nextItem first text) (nextItem first (spread text)) := by
  refine alike_afterSpace text ⟨_, rfl⟩ ?_ ?_
  · intro c rest ascii
    refine .ite (.read ⟨rfl, (Rest.refl rest).later c⟩) ?_
    refine .ite (.read ⟨rfl, rest_cons (spread_cons_of_isAscii ascii rest)⟩) ?_
    exact .ite ((alike_itemAfterComma rest).mono fun _ _ found => found.later c)
      (.refused trivial)
  · intro c rest d others foreign foreignToo split
    simp (disch := decide) only [ne_of_not_isAscii foreign, ne_of_not_isAscii foreignToo, if_false]
    split
    · exact .read ⟨rfl, rest_cons split⟩
    · exact .refused trivial

/-- Items are read from a text as they are from its bytes, if each item is. -/
theorem alike_items {α : Type} {related : α → α → Prop} {item : Reader α}
    (alike : ∀ text, Alike (Results related 1 text) (item text) (item (spread text)))
    {bound more : Nat} (first : Bool) {text : List Char} (enough : text.length < bound)
    (enoughToo : (spread text).length < more) :
    Alike (Results (List.Forall₂ related) 0 text) (items item bound first text)
      (items item more first (spread text)) := by
  induction bound generalizing more first text with
  | zero => exact absurd enough (Nat.not_lt_zero _)
  | succ bound ih =>
      obtain ⟨more, rfl⟩ := Nat.exists_eq_add_one_of_ne_zero (Nat.ne_zero_of_lt enoughToo)
      rw [items, items]
      refine (alike_nextItem first text).bind ?_
      rintro ⟨found, start⟩ ⟨other, otherStart⟩ ⟨rfl, left⟩
      dsimp only at left ⊢
      split
      · obtain rfl := left.1
        refine (alike start).bind ?_
        rintro ⟨head, rest⟩ ⟨otherHead, otherRest⟩ ⟨sameHead, behind⟩
        have shorter := (left.trans behind).length_le
        have shorterToo := (left.trans behind).length_spread_lt
        obtain rfl := behind.1
        dsimp only at shorter shorterToo
        refine (@ih more false rest (by omega) (by omega)).bind ?_
        rintro ⟨tail, after⟩ ⟨otherTail, otherAfter⟩ ⟨sameTail, ending⟩
        exact .read ⟨.cons sameHead sameTail,
          ((left.trans behind).trans ending).weaken (Nat.zero_le _)⟩
      · exact .read ⟨.nil, left⟩

/-! ## Members -/

/-- Names that are the same but for the characters that are spread over their bytes. -/
abbrev SameNames : Option String → Option String → Prop :=
  Option.Rel fun name other => Respelled name.toList other.toList

theorem alike_name (text : List Char) :
    Alike (Results SameNames 0 text)
      (string text >>= fun read => .ok (some read.1, read.2))
      (string (spread text) >>= fun read => .ok (some read.1, read.2)) :=
  (alike_string text).bind fun _ _ ⟨same, left⟩ => .read ⟨.some same, left.weaken (Nat.zero_le 1)⟩

def nameAfterComma (text : List Char) : Except Fault (Option String × List Char) :=
  match skipSpace text with
  | [] => .error (.next .endInValue [])
  | d :: rest =>
    if d = '"' then do
      let (name, rest) ← string rest
      .ok (some name, rest)
    else if d = '\x7d' then .error (.next .trailingComma (d :: rest))
    else .error (.next .nameNotText (d :: rest))

theorem alike_nameAfterComma (text : List Char) :
    Alike (Results SameNames 0 text) (nameAfterComma text) (nameAfterComma (spread text)) := by
  refine alike_afterSpace text ⟨_, rfl⟩ ?_ ?_
  · intro d rest ascii
    exact .ite ((alike_name rest).mono fun _ _ found => found.later d)
      (.ite (.refused trivial) (.refused trivial))
  · intro d rest e others foreign foreignToo split
    simp (disch := decide) only [ne_of_not_isAscii foreign, ne_of_not_isAscii foreignToo, if_false]
    exact .refused trivial

theorem alike_nextName (first : Bool) (text : List Char) :
    Alike (Results SameNames 0 text) (nextName first text) (nextName first (spread text)) := by
  refine alike_afterSpace text ⟨_, rfl⟩ ?_ ?_
  · intro c rest ascii
    refine .ite (.read ⟨.none, (Rest.refl rest).later c⟩) (.ite ?_ ?_)
    · exact .ite ((alike_name rest).mono fun _ _ found => found.later c) (.refused trivial)
    · exact .ite ((alike_nameAfterComma rest).mono fun _ _ found => found.later c)
        (.refused trivial)
  · intro c rest d others foreign foreignToo split
    simp (disch := decide) only [ne_of_not_isAscii foreign, ne_of_not_isAscii foreignToo, if_false]
    split
    · exact .refused trivial
    · exact .refused trivial

theorem alike_colon (text : List Char) :
    Alike (Rest 1 text) (colon text) (colon (spread text)) := by
  have left := rest_skipSpace text
  unfold colon
  rw [left.1]
  cases start : skipSpace text with
  | nil => exact .refused trivial
  | cons c rest =>
      rw [start] at left
      by_cases mark : c = ':'
      · subst mark
        rw [spread_cons_of_isAscii (by decide)]
        exact .read (left.trans (.tail ':' rest))
      · obtain ⟨d, others, split, avoids⟩ := exists_spread_eq_cons_avoiding c rest
        rw [split]
        dsimp only
        rw [if_neg mark, if_neg (avoids ':' (by decide) mark)]
        exact .refused trivial

/-- Members are read from a text as they are from its bytes, if the value of each is. -/
theorem alike_members {item : Reader Value}
    (alike : ∀ text, Alike (Results Value.Blurred 1 text) (item text) (item (spread text)))
    {bound more : Nat} (first : Bool) {text : List Char} (enough : text.length < bound)
    (enoughToo : (spread text).length < more) :
    Alike (Results (List.Forall₂ Value.BlurredMember) 0 text) (members item bound first text)
      (members item more first (spread text)) := by
  induction bound generalizing more first text with
  | zero => exact absurd enough (Nat.not_lt_zero _)
  | succ bound ih =>
      obtain ⟨more, rfl⟩ := Nat.exists_eq_add_one_of_ne_zero (Nat.ne_zero_of_lt enoughToo)
      rw [members, members]
      refine (alike_nextName first text).bind ?_
      rintro ⟨found, start⟩ ⟨other, otherStart⟩ ⟨sameName, left⟩
      obtain rfl := left.1
      cases sameName with
      | none => exact .read ⟨.nil, left⟩
      | some sameName =>
          refine (alike_colon start).bind ?_
          intro afterColon otherAfterColon behindColon
          obtain rfl := behindColon.1
          refine (alike afterColon).bind ?_
          rintro ⟨head, rest⟩ ⟨otherHead, otherRest⟩ ⟨sameHead, behind⟩
          have taken := (left.trans behindColon).trans behind
          have shorter := taken.length_le
          have shorterToo := taken.length_spread_lt
          obtain rfl := behind.1
          dsimp only at shorter shorterToo
          refine (ih false (by omega) (by omega)).bind ?_
          rintro ⟨tail, after⟩ ⟨otherTail, otherAfter⟩ ⟨sameTail, ending⟩
          exact .read ⟨.cons (.member sameName sameHead) sameTail,
            (taken.trans ending).weaken (Nat.zero_le _)⟩

/-! ## Values and documents -/

theorem alike_value (depth : Nat) (text : List Char) :
    Alike (Results Value.Blurred 1 text) (value depth text) (value depth (spread text)) := by
  induction depth generalizing text with
  | zero =>
      refine alike_afterSpace text ⟨_, rfl⟩ ?_ ?_
      · intro c rest ascii
        have scalars := alike_scalar (c :: rest)
        rw [spread_cons_of_isAscii ascii] at scalars
        exact .ite (.refused trivial) scalars
      · intro c rest d others foreign foreignToo split
        simp (disch := decide) only [ne_of_not_isAscii foreign, ne_of_not_isAscii foreignToo,
          or_self, if_false]
        exact split ▸ alike_scalar (c :: rest)
  | succ depth ih =>
      refine alike_afterSpace text ⟨_, rfl⟩ ?_ ?_
      · intro c rest ascii
        have scalars := alike_scalar (c :: rest)
        rw [spread_cons_of_isAscii ascii] at scalars
        refine .ite ?_ (.ite ?_ scalars)
        · refine (alike_items ih true (Nat.lt_succ_self _) (Nat.lt_succ_self _)).bind ?_
          rintro ⟨list, after⟩ ⟨others, otherAfter⟩ ⟨same, left⟩
          exact .read ⟨.array same, left.cons c⟩
        · refine (alike_members ih true (Nat.lt_succ_self _) (Nat.lt_succ_self _)).bind ?_
          rintro ⟨list, after⟩ ⟨others, otherAfter⟩ ⟨same, left⟩
          exact .read ⟨.object same, left.cons c⟩
      · intro c rest d others foreign foreignToo split
        simp (disch := decide) only [ne_of_not_isAscii foreign, ne_of_not_isAscii foreignToo,
          if_false]
        exact split ▸ alike_scalar (c :: rest)

theorem alike_document {α : Type} {related : α → α → Prop} {least : Nat} {reader : Reader α}
    (alike : ∀ text, Alike (Results related least text) (reader text) (reader (spread text)))
    {text other : String} (bytes : other.toList = spread text.toList) :
    Alike related (document reader text) (document reader other) := by
  unfold document
  refine Alike.mapError ?_ _ _
  rw [bytes]
  refine (alike text.toList).bind ?_
  rintro ⟨result, rest⟩ ⟨otherResult, otherRest⟩ ⟨same, left⟩
  obtain rfl := left.1
  dsimp only
  rw [(rest_skipSpace rest).1]
  cases skipSpace rest with
  | nil => exact .read same
  | cons c rest =>
      obtain ⟨d, others, split, -⟩ := exists_spread_eq_cons_avoiding c rest
      rw [split]
      exact .refused trivial

/-- Normal forms of values that differ in how characters are spread over their bytes. -/
def Value.Indistinct (value other : Value) : Prop :=
  ∃ first second : Value, first.Blurred second ∧ value = first.normalize ∧ other = second.normalize

/-- A document is parsed if its bytes are. -/
theorem alike_parse {text other : String} (bytes : other.toList = spread text.toList) :
    Alike Value.Indistinct (parse text) (parse other) :=
  (alike_document (alike_value depthLimit) bytes).map fun first second same =>
    ⟨first, second, same, rfl, rfl⟩

end Json
end GatewayTelemetry
