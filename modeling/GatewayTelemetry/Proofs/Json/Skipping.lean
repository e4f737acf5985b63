import GatewayTelemetry.Json.Skip
import GatewayTelemetry.Proofs.Json.RoundTrip

/-!
# Values are passed over as they are written

The scanner that passes over a value ends where the text of the value ends, if what follows carries
no numeral on. It counts open arrays and objects, too, but admits as many as there are characters.
-/

namespace GatewayTelemetry
namespace Json

/-! ## Parts of texts -/

theorem Value.exists_print_eq_cons {value : Value} (integers : value.HasIntegers) :
    ∃ c text, value.print = c :: text ∧ Starts c := by
  rw [← value.write_compact 0]
  exact Value.exists_write_eq_cons integers .compact 0

theorem endsNumeral_beforeItems (list : List Value) (rest : List Char) :
    EndsNumeral (beforeItems false list ++ ']' :: rest) := by
  rw [← Value.writeItems_compact list 0]
  exact endsNumeral_writeItems .compact 0 list rest

theorem length_le_beforeItems {list : List Value} (integers : Value.ItemsHaveIntegers list) :
    list.length ≤ (beforeItems false list).length := by
  rw [← Value.writeItems_compact list 0]
  exact length_le_writeItems .compact 0 integers false

theorem length_le_beforeMembers (list : List (String × Value)) :
    list.length ≤ (beforeMembers false list).length := by
  rw [← Value.writeMembers_compact list 0]
  exact length_le_writeMembers .compact 0 list false

theorem length_printItems_le (list : List Value) :
    (Value.printItems list).length ≤ (beforeItems false list).length := by
  rw [beforeItems]
  split
  · exact Nat.le_refl _
  · exact Nat.le_succ _

theorem length_printMembers_le (list : List (String × Value)) :
    (Value.printMembers list).length ≤ (beforeMembers false list).length := by
  rw [beforeMembers]
  split
  · exact Nat.le_refl _
  · exact Nat.le_succ _

namespace Skip

/-! ## Strings -/

/-- A written character is passed over. -/
theorem string_escape (c : Char) (bound : Nat) (text : List Char) :
    string (bound + 1) (escape c ++ text) = string bound text := by
  unfold escape
  -- The seven characters with an escape of two characters each.
  repeat
    split
    · next same => rfl
  split
  · next control =>
      simp only [List.cons_append, List.nil_append]
      rw [string, if_neg (by decide), if_pos rfl, escapeSequence, if_pos rfl,
        hexEscape_of_lt control]
      rfl
  · next noQuote noBackslash _ _ _ _ _ noControl =>
      rw [List.singleton_append, string, if_neg noQuote, if_neg noBackslash, if_neg noControl]

theorem string_flatMap_escape (chars : List Char) {bound : Nat} (enough : chars.length < bound)
    (text : List Char) : string bound (chars.flatMap escape ++ '"' :: text) = .ok text := by
  induction chars generalizing bound with
  | nil =>
      obtain ⟨bound, rfl⟩ := Nat.exists_eq_add_one_of_ne_zero (Nat.ne_zero_of_lt enough)
      rfl
  | cons c chars ih =>
      obtain ⟨bound, rfl⟩ := Nat.exists_eq_add_one_of_ne_zero (Nat.ne_zero_of_lt enough)
      rw [List.flatMap_cons, List.append_assoc, string_escape]
      exact ih (Nat.lt_of_succ_lt_succ enough)

theorem string_quote (text : String) (rest : List Char) :
    string (text.toList.flatMap escape ++ '"' :: rest).length
      (text.toList.flatMap escape ++ '"' :: rest) = .ok rest := by
  have enough := length_le_flatMap_escape text.toList
  apply string_flatMap_escape
  simp only [List.length_append, List.length_cons]
  omega

/-! ## Numbers -/

theorem afterInteger_of_endsNumeral {rest : List Char} (ends : EndsNumeral rest) :
    afterInteger rest = .ok rest := by
  cases rest with
  | nil => rfl
  | cons c rest =>
      obtain ⟨-, noPoint, noLower, noUpper⟩ := ends c rfl
      simp [afterInteger, afterFraction, noPoint, noLower, noUpper]

theorem number_toDigits (n : Nat) {rest : List Char} (ends : EndsNumeral rest) :
    number (Nat.toDigits 10 n ++ rest) = .ok rest := by
  obtain ⟨c, digits, split⟩ := List.exists_cons_of_ne_nil (Nat.toDigits_ne_nil (b := 10) (n := n))
  have all : ∀ d ∈ c :: digits, d.isDigit = true := fun d present =>
    isDigit_of_mem_toDigits (split ▸ present)
  have later : ∀ d ∈ digits, d.isDigit = true := fun d present =>
    all d (List.mem_cons_of_mem c present)
  rw [split, List.cons_append]
  by_cases zero : c = '0'
  · subst zero
    rw [length_toDigits_of_leading_zero split, List.nil_append]
    cases rest with
    | nil => rfl
    | cons d rest =>
        rw [number, if_neg (by simp [(ends d rfl).1])]
        exact afterInteger_of_endsNumeral ends
  · rw [number, if_pos (all c List.mem_cons_self), dropWhile_isDigit_append later ends]
    · exact afterInteger_of_endsNumeral ends
    · exact zero

theorem scalar_integerText (value : Int) {rest : List Char} (ends : EndsNumeral rest) :
    scalar (integerText value ++ rest) = .ok rest := by
  cases value with
  | ofNat n =>
      have read := number_toDigits n ends
      obtain ⟨c, digits, split⟩ :=
        List.exists_cons_of_ne_nil (Nat.toDigits_ne_nil (b := 10) (n := n))
      have digit : c.isDigit = true := isDigit_of_mem_toDigits (split ▸ List.mem_cons_self)
      have other : ∀ d : Char, d.isDigit = false → c ≠ d := by
        rintro d noDigit rfl
        simp [digit] at noDigit
      rw [integerText, split, List.cons_append, scalar, if_neg (other 'n' (by decide)),
        if_neg (other 't' (by decide)), if_neg (other 'f' (by decide)),
        if_neg (other '"' (by decide)), if_neg (other '-' (by decide)), if_pos digit]
      rwa [split, List.cons_append] at read
  | negSucc n => exact number_toDigits (n + 1) ends

theorem value_eq_scalar {c : Char} (notSpace : isSpace c = false) (noList : c ≠ '[')
    (noObject : c ≠ '\x7b') (depth : Nat) (text : List Char) :
    value depth (c :: text) = scalar (c :: text) := by
  cases depth with
  | zero => rw [value, skipSpace_cons notSpace]
  | succ depth => simp [value, skipSpace_cons notSpace, noList, noObject]

/-! ## Items and members -/

section

variable (item : List Char → Except Fault (List Char))

theorem array_close (rest : List Char) : array item (']' :: rest) = .ok rest :=
  rfl

theorem array_of_starts {c : Char} (starts : Value.Starts c) (text : List Char) :
    array item (c :: text) = (do
      let rest ← item (c :: text)
      items item (c :: text).length rest) := by
  obtain ⟨notSpace, notBracket, -, -⟩ := starts
  rw [array, skipSpace_cons notSpace]
  exact if_neg notBracket

theorem items_close (bound : Nat) (rest : List Char) :
    items item (bound + 1) (']' :: rest) = .ok rest :=
  rfl

theorem items_comma (bound : Nat) (text : List Char) :
    items item (bound + 1) (',' :: text) = (do
      let rest ← item text
      items item bound rest) :=
  rfl

theorem member_quote (name : String) (text : List Char) :
    member item (quote name ++ ':' :: text) = item text := by
  rw [quote, List.cons_append, List.cons_append, List.append_assoc, member,
    skipSpace_cons (by decide)]
  dsimp only
  rw [if_pos rfl, List.singleton_append, string_quote]
  rfl

theorem object_close (rest : List Char) : object item ('\x7d' :: rest) = .ok rest :=
  rfl

theorem object_quote (name : String) (text : List Char) :
    object item (quote name ++ text) = (do
      let rest ← member item (quote name ++ text)
      members item (quote name ++ text).length rest) := by
  rw [quote, List.cons_append, List.cons_append, object, skipSpace_cons (by decide)]
  exact if_neg (by decide)

theorem members_close (bound : Nat) (rest : List Char) :
    members item (bound + 1) ('\x7d' :: rest) = .ok rest :=
  rfl

theorem members_comma (bound : Nat) (text : List Char) :
    members item (bound + 1) (',' :: text) = (do
      let rest ← member item text
      members item bound rest) :=
  rfl

end

/-! ## Values -/

theorem value_list (depth : Nat) (text : List Char) :
    value (depth + 1) ('[' :: text) = array (value depth) text :=
  rfl

theorem value_object (depth : Nat) (text : List Char) :
    value (depth + 1) ('\x7b' :: text) = object (value depth) text :=
  rfl

mutual

/-- The text of a value is passed over, in front of what carries no numeral on. -/
theorem value_print (v : Value) (integers : v.HasIntegers) {depth : Nat}
    (inside : v.nesting ≤ depth) {rest : List Char} (ends : EndsNumeral rest) :
    value depth (v.print ++ rest) = .ok rest := by
  cases v with
  | null => exact value_eq_scalar (by decide) (by decide) (by decide) depth _
  | boolean truth =>
      cases truth with
      | false => exact value_eq_scalar (by decide) (by decide) (by decide) depth _
      | true => exact value_eq_scalar (by decide) (by decide) (by decide) depth _
  | number numeral =>
      cases numeral with
      | float value => exact integers.elim
      | integer value =>
          have read := scalar_integerText value ends
          obtain ⟨c, text, print, starts⟩ := Value.exists_integerText_eq_cons value
          rw [print, List.cons_append] at read
          rw [Value.print, Number.print, print, List.cons_append,
            value_eq_scalar starts.starts.1 (starts.ne (by decide)) (starts.ne (by decide)), read]
  | string text =>
      rw [Value.print, quote, List.cons_append, List.cons_append, List.append_assoc,
        value_eq_scalar (by decide) (by decide) (by decide)]
      exact string_quote text rest
  | array list =>
      obtain ⟨depth, rfl⟩ := Nat.exists_eq_add_one_of_ne_zero (Nat.ne_zero_of_lt inside)
      rw [Value.print, List.cons_append, List.cons_append, List.append_assoc,
        List.singleton_append, value_list]
      exact array_print list integers (Nat.le_of_succ_le_succ inside) rest
  | object list =>
      obtain ⟨depth, rfl⟩ := Nat.exists_eq_add_one_of_ne_zero (Nat.ne_zero_of_lt inside)
      rw [Value.print, List.cons_append, List.cons_append, List.append_assoc,
        List.singleton_append, value_object]
      exact object_print list integers (Nat.le_of_succ_le_succ inside) rest

theorem array_print (list : List Value) (integers : Value.ItemsHaveIntegers list) {depth : Nat}
    (inside : Value.itemsNesting list ≤ depth) (rest : List Char) :
    array (value depth) (Value.printItems list ++ ']' :: rest) = .ok rest := by
  cases list with
  | nil => exact array_close _ rest
  | cons item list =>
      have head := value_print item integers.1 (Nat.le_trans (Nat.le_max_left _ _) inside)
        (endsNumeral_beforeItems list rest)
      obtain ⟨c, text, print, starts⟩ := Value.exists_print_eq_cons integers.1
      have enough := length_le_beforeItems integers.2
      rw [printItems_cons, List.append_assoc]
      rw [print, List.cons_append] at head ⊢
      rw [array_of_starts _ starts, head]
      apply items_print list integers.2 (Nat.le_trans (Nat.le_max_right _ _) inside) rest
      simp only [List.length_cons, List.length_append]
      omega

theorem items_print (list : List Value) (integers : Value.ItemsHaveIntegers list) {depth : Nat}
    (inside : Value.itemsNesting list ≤ depth) (rest : List Char) {bound : Nat}
    (enough : list.length < bound) :
    items (value depth) bound (beforeItems false list ++ ']' :: rest) = .ok rest := by
  obtain ⟨bound, rfl⟩ := Nat.exists_eq_add_one_of_ne_zero (Nat.ne_zero_of_lt enough)
  cases list with
  | nil => exact items_close _ bound rest
  | cons item list =>
      have head := value_print item integers.1 (Nat.le_trans (Nat.le_max_left _ _) inside)
        (endsNumeral_beforeItems list rest)
      have tail := items_print list integers.2 (Nat.le_trans (Nat.le_max_right _ _) inside) rest
        (Nat.lt_of_succ_lt_succ enough)
      rw [beforeItems_cons, comma, if_neg Bool.false_ne_true, List.append_assoc,
        List.singleton_append, List.append_assoc, items_comma, head]
      exact tail

theorem object_print (list : List (String × Value)) (integers : Value.MembersHaveIntegers list)
    {depth : Nat} (inside : Value.membersNesting list ≤ depth) (rest : List Char) :
    object (value depth) (Value.printMembers list ++ '\x7d' :: rest) = .ok rest := by
  match list with
  | [] => exact object_close _ rest
  | (name, v) :: list =>
      have head := value_print v integers.1 (Nat.le_trans (Nat.le_max_left _ _) inside)
        (endsNumeral_beforeMembers list rest)
      have enough := length_le_beforeMembers list
      rw [printMembers_cons, List.append_assoc, List.append_assoc, object_quote,
        List.cons_append, member_quote, head]
      apply members_print list integers.2 (Nat.le_trans (Nat.le_max_right _ _) inside) rest
      simp only [List.length_cons, List.length_append]
      omega

theorem members_print (list : List (String × Value)) (integers : Value.MembersHaveIntegers list)
    {depth : Nat} (inside : Value.membersNesting list ≤ depth) (rest : List Char) {bound : Nat}
    (enough : list.length < bound) :
    members (value depth) bound (beforeMembers false list ++ '\x7d' :: rest) = .ok rest := by
  obtain ⟨bound, rfl⟩ := Nat.exists_eq_add_one_of_ne_zero (Nat.ne_zero_of_lt enough)
  match list with
  | [] => exact members_close _ bound rest
  | (name, v) :: list =>
      have head := value_print v integers.1 (Nat.le_trans (Nat.le_max_left _ _) inside)
        (endsNumeral_beforeMembers list rest)
      have tail := members_print list integers.2 (Nat.le_trans (Nat.le_max_right _ _) inside) rest
        (Nat.lt_of_succ_lt_succ enough)
      rw [beforeMembers_cons, comma, if_neg Bool.false_ne_true, List.append_assoc,
        List.singleton_append, List.append_assoc, members_comma, List.cons_append, member_quote,
        List.append_assoc, head]
      exact tail

end

end Skip

/-! ## Values of any depth -/

namespace Value

mutual

/-- No more arrays and objects are open in a value than its text has characters. -/
theorem nesting_le_length_print (value : Value) : value.nesting ≤ value.print.length := by
  cases value with
  | array items =>
      have inside := itemsNesting_le_length_print items
      simp only [nesting, print, List.length_append, List.length_cons, List.length_nil]
      omega
  | object members =>
      have inside := membersNesting_le_length_print members
      simp only [nesting, print, List.length_append, List.length_cons, List.length_nil]
      omega
  | _ => exact Nat.zero_le _

theorem itemsNesting_le_length_print (items : List Value) :
    itemsNesting items ≤ (printItems items).length := by
  cases items with
  | nil => exact Nat.zero_le _
  | cons item items =>
      have head := nesting_le_length_print item
      have tail := itemsNesting_le_length_print items
      have further := length_printItems_le items
      rw [itemsNesting, printItems_cons, List.length_append]
      omega

theorem membersNesting_le_length_print (members : List (String × Value)) :
    membersNesting members ≤ (printMembers members).length := by
  match members with
  | [] => exact Nat.zero_le _
  | (name, value) :: members =>
      have head := nesting_le_length_print value
      have tail := membersNesting_le_length_print members
      have further := length_printMembers_le members
      rw [membersNesting, printMembers_cons]
      simp only [List.length_append, List.length_cons]
      omega

end

end Value

/-- The text of a value is passed over, however deep it nests. -/
theorem skip_print {v : Value} (integers : v.HasIntegers) {rest : List Char}
    (ends : EndsNumeral rest) : skip (v.print ++ rest) = .ok rest := by
  have deep : v.nesting ≤ (v.print ++ rest).length := by
    rw [List.length_append]
    exact Nat.le_add_right_of_le v.nesting_le_length_print
  exact Skip.value_print v integers deep ends

end Json
end GatewayTelemetry
