import GatewayTelemetry.Proofs.Json.Integers
import GatewayTelemetry.Proofs.Json.Quoting
import GatewayTelemetry.Proofs.Json.Spacing

/-!
# Values are read as they are written

The reader undoes the printer: read in front of any text that does not carry a numeral on, the text
of a value gives the value back, with or without blanks between its parts, as long as its arrays and
objects nest no deeper than allowed. What nests is only what is open at once, so the depth is that
of the tree; where it exceeds what is allowed, the reader says so.
-/

namespace GatewayTelemetry
namespace Json

namespace Value

mutual

/-- All numbers in a value are integers of the 64-bit ranges. -/
def HasIntegers : Value → Prop
  | .number numeral => numeral.IsInteger64
  | .array items => ItemsHaveIntegers items
  | .object members => MembersHaveIntegers members
  | _ => True

def ItemsHaveIntegers : List Value → Prop
  | [] => True
  | item :: items => item.HasIntegers ∧ ItemsHaveIntegers items

def MembersHaveIntegers : List (String × Value) → Prop
  | [] => True
  | (_, value) :: members => value.HasIntegers ∧ MembersHaveIntegers members

end

theorem membersHaveIntegers_iff {members : List (String × Value)} :
    MembersHaveIntegers members ↔ ∀ member ∈ members, member.2.HasIntegers := by
  induction members with
  | nil => simp [MembersHaveIntegers]
  | cons member members ih => rw [List.forall_mem_cons, MembersHaveIntegers, ih]

mutual

/-- How many arrays and objects are open at once, at most. -/
def nesting : Value → Nat
  | .array items => itemsNesting items + 1
  | .object members => membersNesting members + 1
  | _ => 0

def itemsNesting : List Value → Nat
  | [] => 0
  | item :: items => max item.nesting (itemsNesting items)

/-- How many arrays and objects are open at once in the values of some members, at most. -/
def membersNesting : List (String × Value) → Nat
  | [] => 0
  | (_, value) :: members => max value.nesting (membersNesting members)

end

theorem itemsNesting_le_iff {items : List Value} {depth : Nat} :
    itemsNesting items ≤ depth ↔ ∀ item ∈ items, item.nesting ≤ depth := by
  induction items with
  | nil => simp [itemsNesting]
  | cons item items ih => rw [List.forall_mem_cons, itemsNesting, Nat.max_le, ih]

theorem membersNesting_le_iff {members : List (String × Value)} {depth : Nat} :
    membersNesting members ≤ depth ↔ ∀ member ∈ members, member.2.nesting ≤ depth := by
  induction members with
  | nil => simp [membersNesting]
  | cons member members ih => rw [List.forall_mem_cons, membersNesting, Nat.max_le, ih]

/-! ## How texts start -/

/-- A character that starts a value and nothing else. -/
def Starts (c : Char) : Prop :=
  isSpace c = false ∧ c ≠ ']' ∧ c ≠ ',' ∧ c ≠ '\x7d'

instance (c : Char) : Decidable (Starts c) :=
  inferInstanceAs (Decidable (isSpace c = false ∧ c ≠ ']' ∧ c ≠ ',' ∧ c ≠ '\x7d'))

def StartsInteger (c : Char) : Prop :=
  c.isDigit = true ∨ c = '-'

instance (c : Char) : Decidable (StartsInteger c) :=
  inferInstanceAs (Decidable (c.isDigit = true ∨ c = '-'))

theorem StartsInteger.ne {c : Char} (starts : StartsInteger c) {other : Char}
    (otherwise : ¬StartsInteger other) : c ≠ other := by
  rintro rfl
  exact otherwise starts

theorem StartsInteger.starts {c : Char} (starts : StartsInteger c) : Starts c := by
  refine ⟨?_, starts.ne (by decide), starts.ne (by decide), starts.ne (by decide)⟩
  simp only [isSpace, Bool.or_eq_false_iff, beq_eq_false_iff_ne]
  exact ⟨⟨⟨starts.ne (by decide), starts.ne (by decide)⟩, starts.ne (by decide)⟩,
    starts.ne (by decide)⟩

theorem exists_integerText_eq_cons (value : Int) :
    ∃ c text, integerText value = c :: text ∧ StartsInteger c := by
  cases value with
  | ofNat n =>
      obtain ⟨c, digits, split⟩ :=
        List.exists_cons_of_ne_nil (Nat.toDigits_ne_nil (b := 10) (n := n))
      have leading : c ∈ Nat.toDigits 10 n := split ▸ List.mem_cons_self
      exact ⟨c, digits, split, .inl (isDigit_of_mem_toDigits leading)⟩
  | negSucc n => exact ⟨'-', _, rfl, .inr rfl⟩

theorem exists_write_eq_cons {value : Value} (integers : value.HasIntegers) (spacing : Spacing)
    (level : Nat) : ∃ c text, value.write spacing level = c :: text ∧ Starts c := by
  cases value with
  | null => exact ⟨'n', _, rfl, by decide⟩
  | boolean truth =>
      cases truth with
      | false => exact ⟨'f', _, rfl, by decide⟩
      | true => exact ⟨'t', _, rfl, by decide⟩
  | number numeral =>
      cases numeral with
      | integer value =>
          obtain ⟨c, text, print, starts⟩ := exists_integerText_eq_cons value
          exact ⟨c, text, print, starts.starts⟩
      | float value => exact integers.elim
  | string text => exact ⟨'"', _, rfl, by decide⟩
  | array items => exact ⟨'[', _, rfl, by decide⟩
  | object members => exact ⟨'\x7b', _, rfl, by decide⟩

end Value

/-! ## Blanks -/

section

variable {blanks : List Char} (allBlank : ∀ c ∈ blanks, isSpace c = true)

theorem skipSpace_cons {c : Char} (notSpace : isSpace c = false) (text : List Char) :
    skipSpace (c :: text) = c :: text := by
  simp [skipSpace, notSpace]

include allBlank

theorem skipSpace_append (text : List Char) : skipSpace (blanks ++ text) = skipSpace text :=
  List.dropWhile_append_of_pos allBlank

theorem value_append (depth : Nat) (text : List Char) :
    value depth (blanks ++ text) = value depth text := by
  cases depth with
  | zero => rw [value, value, skipSpace_append allBlank]
  | succ depth => rw [value, value, skipSpace_append allBlank]

theorem endsNumeral_append {text : List Char} (ends : EndsNumeral text) :
    EndsNumeral (blanks ++ text) := by
  cases blanks with
  | nil => exact ends
  | cons c blanks =>
      refine endsNumeral_cons ?_
      have blank := allBlank c List.mem_cons_self
      simp only [isSpace, Bool.or_eq_true, beq_iff_eq] at blank
      rcases blank with ((rfl | rfl) | rfl) | rfl <;> decide

/-! ## Separators -/

theorem nextItem_close (first : Bool) (rest : List Char) :
    nextItem first (blanks ++ ']' :: rest) = .ok (false, rest) := by
  rw [nextItem, skipSpace_append allBlank]
  rfl

theorem nextItem_comma (first : Bool) {c : Char} (starts : Value.Starts c) (text : List Char) :
    nextItem first (comma first ++ (blanks ++ c :: text)) = .ok (true, c :: text) := by
  obtain ⟨notSpace, notBracket, -, -⟩ := starts
  cases first with
  | true =>
      rw [comma, if_pos rfl, List.nil_append, nextItem, skipSpace_append allBlank,
        skipSpace_cons notSpace]
      simp only [if_neg notBracket, if_true]
  | false =>
      have mark : isSpace ',' = false := by decide
      rw [comma, if_neg Bool.false_ne_true, List.singleton_append, nextItem, skipSpace_cons mark]
      simp only [skipSpace_append allBlank, skipSpace_cons notSpace, if_neg notBracket]
      rfl

theorem nextName_close (first : Bool) (rest : List Char) :
    nextName first (blanks ++ '\x7d' :: rest) = .ok (none, rest) := by
  rw [nextName, skipSpace_append allBlank]
  rfl

theorem nextName_comma (first : Bool) (name : String) (text : List Char) :
    nextName first (comma first ++ (blanks ++ (quote name ++ text))) = .ok (some name, text) := by
  have mark : isSpace '"' = false := by decide
  cases first with
  | true =>
      rw [comma, if_pos rfl, List.nil_append, nextName, skipSpace_append allBlank, quote,
        List.cons_append, List.cons_append, skipSpace_cons mark]
      simp only [string_quote, bind, Except.bind]
      rfl
  | false =>
      have notSpace : isSpace ',' = false := by decide
      rw [comma, if_neg Bool.false_ne_true, List.singleton_append, nextName,
        skipSpace_cons notSpace, quote, List.cons_append, List.cons_append]
      simp only [skipSpace_append allBlank, skipSpace_cons mark, string_quote, bind, Except.bind]
      rfl

end

theorem colon_colon (rest : List Char) : colon (':' :: rest) = .ok rest :=
  rfl

/-! ## Items and members -/

theorem items_of_nextItem {α : Type} {item : Reader α} {first : Bool} {text start : List Char}
    (found : nextItem first text = .ok (true, start)) (bound : Nat) :
    items item (bound + 1) first text = (do
      let (head, rest) ← item start
      let (tail, rest) ← items item bound false rest
      .ok (head :: tail, rest)) := by
  rw [items, found]
  rfl

theorem members_of_nextName {α : Type} {item : Reader α} {first : Bool} {name : String}
    {text start : List Char} (found : nextName first text = .ok (some name, ':' :: start))
    (bound : Nat) :
    members item (bound + 1) first text = (do
      let (head, rest) ← item start
      let (tail, rest) ← members item bound false rest
      .ok ((name, head) :: tail, rest)) := by
  rw [members, found]
  rfl

variable (spacing : Spacing) (level : Nat)

theorem isSpace_writeItems_nil (first : Bool) :
    ∀ c ∈ Value.writeItems spacing level first [], isSpace c = true := by
  cases first with
  | true => exact fun c present => absurd present List.not_mem_nil
  | false => exact spacing.isSpace_line level

theorem isSpace_writeMembers_nil (first : Bool) :
    ∀ c ∈ Value.writeMembers spacing level first [], isSpace c = true := by
  cases first with
  | true => exact fun c present => absurd present List.not_mem_nil
  | false => exact spacing.isSpace_line level

theorem nextItem_writeItems (first : Bool) {item : Value} (integers : item.HasIntegers)
    (list : List Value) (rest : List Char) :
    nextItem first (Value.writeItems spacing level first (item :: list) ++ rest) =
      .ok (true, item.write spacing (level + 1) ++
        (Value.writeItems spacing level false list ++ rest)) := by
  obtain ⟨c, text, write, starts⟩ := Value.exists_write_eq_cons integers spacing (level + 1)
  have found := nextItem_comma (spacing.isSpace_line (level + 1)) first starts
    (text ++ (Value.writeItems spacing level false list ++ rest))
  simpa only [Value.writeItems, write, List.append_assoc, List.cons_append] using found

theorem nextName_writeMembers (first : Bool) (name : String) (v : Value)
    (list : List (String × Value)) (rest : List Char) :
    nextName first (Value.writeMembers spacing level first ((name, v) :: list) ++ rest) =
      .ok (some name, ':' :: (spacing.gap ++ (v.write spacing (level + 1) ++
        (Value.writeMembers spacing level false list ++ rest)))) := by
  have found := nextName_comma (spacing.isSpace_line (level + 1)) first name
    (':' :: (spacing.gap ++ (v.write spacing (level + 1) ++
      (Value.writeMembers spacing level false list ++ rest))))
  simpa only [Value.writeMembers, List.append_assoc, List.cons_append] using found

/-- What follows an item or a member carries no numeral on. -/
theorem endsNumeral_writeItems (list : List Value) (rest : List Char) :
    EndsNumeral (Value.writeItems spacing level false list ++ ']' :: rest) := by
  cases list with
  | nil =>
      exact endsNumeral_append (isSpace_writeItems_nil spacing level false)
        (endsNumeral_cons (by decide))
  | cons item list => exact endsNumeral_cons (by decide)

theorem endsNumeral_writeMembers (list : List (String × Value)) (rest : List Char) :
    EndsNumeral (Value.writeMembers spacing level false list ++ '\x7d' :: rest) := by
  cases list with
  | nil =>
      exact endsNumeral_append (isSpace_writeMembers_nil spacing level false)
        (endsNumeral_cons (by decide))
  | cons member list => exact endsNumeral_cons (by decide)

/-! ## Lengths -/

theorem length_le_writeItems {list : List Value} (integers : Value.ItemsHaveIntegers list)
    (first : Bool) : list.length ≤ (Value.writeItems spacing level first list).length := by
  induction list generalizing first with
  | nil => exact Nat.zero_le _
  | cons item list ih =>
      obtain ⟨c, text, write, -⟩ :=
        Value.exists_write_eq_cons integers.1 spacing (level + 1)
      have later := ih integers.2 false
      simp only [Value.writeItems, write, List.length_append, List.length_cons]
      omega

theorem length_le_writeMembers (list : List (String × Value)) (first : Bool) :
    list.length ≤ (Value.writeMembers spacing level first list).length := by
  induction list generalizing first with
  | nil => exact Nat.zero_le _
  | cons member list ih =>
      have later := ih false
      simp only [Value.writeMembers, List.length_append, List.length_cons]
      omega

/-! ## Values -/

theorem scalar_digits {n : Nat} (fits : n < UInt64.size) {rest : List Char}
    (ends : EndsNumeral rest) :
    scalar (Nat.toDigits 10 n ++ rest) = .ok (.number (.integer n), rest) := by
  have read := number_toDigits false fits ends
  obtain ⟨c, digits, split⟩ := List.exists_cons_of_ne_nil (Nat.toDigits_ne_nil (b := 10) (n := n))
  have digit : c.isDigit = true := isDigit_of_mem_toDigits (split ▸ List.mem_cons_self)
  have other : ∀ d : Char, d.isDigit = false → c ≠ d := by
    rintro d noDigit rfl
    exact absurd digit (by simp [noDigit])
  rw [split, List.cons_append] at read ⊢
  rw [scalar, if_neg (other 'n' (by decide)), if_neg (other 't' (by decide)),
    if_neg (other 'f' (by decide)), if_neg (other '"' (by decide)),
    if_neg (other '-' (by decide)), if_pos digit, read]
  rfl

theorem scalar_minus {text rest : List Char} {numeral : Number}
    (read : number true text = .ok (numeral, rest)) :
    scalar ('-' :: text) = .ok (.number numeral, rest) := by
  rw [scalar, if_neg (by decide), if_neg (by decide), if_neg (by decide), if_neg (by decide),
    if_pos rfl, read]
  rfl

theorem scalar_number {numeral : Number} (integer : numeral.IsInteger64) {rest : List Char}
    (ends : EndsNumeral rest) :
    scalar (numeral.print ++ rest) = .ok (.number numeral, rest) := by
  cases numeral with
  | float value => exact integer.elim
  | integer value =>
      obtain ⟨low, high⟩ := integer
      cases value with
      | ofNat n => exact scalar_digits (by simpa using Int.ofNat_lt.mp high) ends
      | negSucc n =>
          have inRange : n + 1 ≤ UInt64.size / 2 := by omega
          have read := number_toDigits true (show n + 1 < UInt64.size by omega) ends
          rw [integral_negSucc inRange] at read
          exact scalar_minus read

theorem value_eq_scalar {c : Char} (notSpace : isSpace c = false) (noList : c ≠ '[')
    (noObject : c ≠ '\x7b') (depth : Nat) (text : List Char) :
    value depth (c :: text) = scalar (c :: text) := by
  cases depth with
  | zero => simp [value, skipSpace_cons notSpace, noList, noObject]
  | succ depth => simp [value, skipSpace_cons notSpace, noList, noObject]

/-- Behind an opening bracket stand items, in which one array or object less may be open. -/
theorem value_list (depth : Nat) (text : List Char) :
    value (depth + 1) ('[' :: text) = (do
      let (list, rest) ← items (value depth) (text.length + 1) true text
      .ok (.array list, rest)) := by
  rw [value, skipSpace_cons (by decide)]
  rfl

/-- Behind an opening brace stand members, in which one array or object less may be open. -/
theorem value_object (depth : Nat) (text : List Char) :
    value (depth + 1) ('\x7b' :: text) = (do
      let (list, rest) ← members (value depth) (text.length + 1) true text
      .ok (.object list, rest)) := by
  rw [value, skipSpace_cons (by decide)]
  rfl

theorem value_number {numeral : Number} (integer : numeral.IsInteger64) (depth : Nat)
    {rest : List Char} (ends : EndsNumeral rest) :
    value depth (numeral.print ++ rest) = .ok (.number numeral, rest) := by
  have read := scalar_number integer ends
  cases numeral with
  | float value => exact integer.elim
  | integer value =>
      obtain ⟨c, text, print, starts⟩ := Value.exists_integerText_eq_cons value
      rw [Number.print, print, List.cons_append] at read ⊢
      rw [value_eq_scalar starts.starts.1 (starts.ne (by decide)) (starts.ne (by decide)), read]

/-! ## Shallow enough -/

mutual

/-- The text of a value is read as the value, in front of what carries no numeral on. -/
theorem value_write (v : Value) (integers : v.HasIntegers) {depth : Nat}
    (inside : v.nesting ≤ depth) (level : Nat) {rest : List Char} (ends : EndsNumeral rest) :
    value depth (v.write spacing level ++ rest) = .ok (v, rest) := by
  cases v with
  | null => exact value_eq_scalar (by decide) (by decide) (by decide) depth _
  | boolean truth =>
      cases truth with
      | false => exact value_eq_scalar (by decide) (by decide) (by decide) depth _
      | true => exact value_eq_scalar (by decide) (by decide) (by decide) depth _
  | number numeral => exact value_number integers depth ends
  | string text =>
      refine (value_eq_scalar (by decide) (by decide) (by decide) depth _).trans ?_
      change (do
        let (chars, rest) ← string ((text.toList.flatMap escape ++ ['"']) ++ rest)
        Except.ok (Value.string chars, rest)) = _
      rw [string_quote]
      rfl
  | array list =>
      obtain ⟨depth, rfl⟩ := Nat.exists_eq_add_one_of_ne_zero (Nat.ne_zero_of_lt inside)
      have enough := length_le_writeItems spacing level integers true
      rw [Value.write, List.cons_append, List.cons_append, List.append_assoc,
        List.singleton_append, value_list]
      rw [items_write list integers (Nat.le_of_succ_le_succ inside) level true
        (by rw [List.length_append]; omega) rest]
      rfl
  | object list =>
      obtain ⟨depth, rfl⟩ := Nat.exists_eq_add_one_of_ne_zero (Nat.ne_zero_of_lt inside)
      have enough := length_le_writeMembers spacing level list true
      rw [Value.write, List.cons_append, List.cons_append, List.append_assoc,
        List.singleton_append, value_object]
      rw [members_write list integers (Nat.le_of_succ_le_succ inside) level true
        (by rw [List.length_append]; omega) rest]
      rfl

theorem items_write (list : List Value) (integers : Value.ItemsHaveIntegers list) {depth : Nat}
    (inside : Value.itemsNesting list ≤ depth) (level : Nat) (first : Bool) {bound : Nat}
    (enough : list.length < bound) (rest : List Char) :
    items (value depth) bound first (Value.writeItems spacing level first list ++ ']' :: rest) =
      .ok (list, rest) := by
  obtain ⟨bound, rfl⟩ := Nat.exists_eq_add_one_of_ne_zero (Nat.ne_zero_of_lt enough)
  cases list with
  | nil =>
      rw [items, nextItem_close (isSpace_writeItems_nil spacing level first)]
      rfl
  | cons item list =>
      have head := value_write item integers.1 (Nat.le_trans (Nat.le_max_left _ _) inside)
        (level + 1) (endsNumeral_writeItems spacing level list rest)
      have tail := items_write list integers.2 (Nat.le_trans (Nat.le_max_right _ _) inside)
        level false (Nat.lt_of_succ_lt_succ enough) rest
      rw [items_of_nextItem (nextItem_writeItems spacing level first integers.1 list _)]
      simp only [bind, Except.bind, head, tail]

theorem members_write (list : List (String × Value)) (integers : Value.MembersHaveIntegers list)
    {depth : Nat} (inside : Value.membersNesting list ≤ depth) (level : Nat) (first : Bool)
    {bound : Nat} (enough : list.length < bound) (rest : List Char) :
    members (value depth) bound first
        (Value.writeMembers spacing level first list ++ '\x7d' :: rest) =
      .ok (list, rest) := by
  obtain ⟨bound, rfl⟩ := Nat.exists_eq_add_one_of_ne_zero (Nat.ne_zero_of_lt enough)
  match list with
  | [] =>
      rw [members, nextName_close (isSpace_writeMembers_nil spacing level first)]
      rfl
  | (name, v) :: list =>
      have head := value_write v integers.1 (Nat.le_trans (Nat.le_max_left _ _) inside)
        (level + 1) (endsNumeral_writeMembers spacing level list rest)
      have tail := members_write list integers.2 (Nat.le_trans (Nat.le_max_right _ _) inside)
        level false (Nat.lt_of_succ_lt_succ enough) rest
      rw [members_of_nextName (nextName_writeMembers spacing level first name v list _)]
      simp only [bind, Except.bind, value_append spacing.isSpace_gap, head, tail]

end

/-! ## Too deep -/

/-- A reading fails since too many arrays and objects are open. -/
def RefusedAsTooDeep {α : Type} (outcome : Except Fault α) : Prop :=
  ∃ fault, outcome = .error fault ∧ fault.reason = .tooDeep

theorem RefusedAsTooDeep.bind {α β : Type} {outcome : Except Fault α}
    (refused : RefusedAsTooDeep outcome) (next : α → Except Fault β) :
    RefusedAsTooDeep (outcome >>= next) := by
  obtain ⟨fault, rfl, reason⟩ := refused
  exact ⟨fault, rfl, reason⟩

mutual

/-- A value that nests deeper than allowed is refused for that reason. -/
theorem value_tooDeep (v : Value) (integers : v.HasIntegers) {depth : Nat}
    (deep : depth < v.nesting) (level : Nat) (rest : List Char) :
    RefusedAsTooDeep (value depth (v.write spacing level ++ rest)) := by
  cases v with
  | null => exact absurd deep (Nat.not_lt_zero depth)
  | boolean truth => exact absurd deep (Nat.not_lt_zero depth)
  | number numeral => exact absurd deep (Nat.not_lt_zero depth)
  | string text => exact absurd deep (Nat.not_lt_zero depth)
  | array list =>
      cases depth with
      | zero => exact ⟨_, rfl, rfl⟩
      | succ depth =>
          have enough := length_le_writeItems spacing level integers true
          rw [Value.write, List.cons_append, List.cons_append, List.append_assoc,
            List.singleton_append, value_list]
          refine .bind (items_tooDeep list integers (Nat.lt_of_succ_lt_succ deep) level true
            ?_ rest) _
          rw [List.length_append]
          omega
  | object list =>
      cases depth with
      | zero => exact ⟨_, rfl, rfl⟩
      | succ depth =>
          have enough := length_le_writeMembers spacing level list true
          rw [Value.write, List.cons_append, List.cons_append, List.append_assoc,
            List.singleton_append, value_object]
          refine .bind (members_tooDeep list integers (Nat.lt_of_succ_lt_succ deep) level true
            ?_ rest) _
          rw [List.length_append]
          omega

theorem items_tooDeep (list : List Value) (integers : Value.ItemsHaveIntegers list)
    {depth : Nat} (deep : depth < Value.itemsNesting list) (level : Nat) (first : Bool)
    {bound : Nat} (enough : list.length < bound) (rest : List Char) :
    RefusedAsTooDeep (items (value depth) bound first
      (Value.writeItems spacing level first list ++ ']' :: rest)) := by
  obtain ⟨bound, rfl⟩ := Nat.exists_eq_add_one_of_ne_zero (Nat.ne_zero_of_lt enough)
  cases list with
  | nil => exact absurd deep (Nat.not_lt_zero depth)
  | cons item list =>
      rw [items_of_nextItem (nextItem_writeItems spacing level first integers.1 list _)]
      rcases Nat.lt_or_ge depth item.nesting with itemDeep | inside
      · exact .bind (value_tooDeep item integers.1 itemDeep (level + 1) _) _
      · have head := value_write spacing item integers.1 inside (level + 1)
          (endsNumeral_writeItems spacing level list rest)
        have later : depth < Value.itemsNesting list := by
          rw [Value.itemsNesting] at deep
          omega
        have tail := items_tooDeep list integers.2 later level false
          (Nat.lt_of_succ_lt_succ enough) rest
        rw [head]
        exact tail.bind _

theorem members_tooDeep (list : List (String × Value))
    (integers : Value.MembersHaveIntegers list) {depth : Nat}
    (deep : depth < Value.membersNesting list) (level : Nat) (first : Bool) {bound : Nat}
    (enough : list.length < bound) (rest : List Char) :
    RefusedAsTooDeep (members (value depth) bound first
      (Value.writeMembers spacing level first list ++ '\x7d' :: rest)) := by
  obtain ⟨bound, rfl⟩ := Nat.exists_eq_add_one_of_ne_zero (Nat.ne_zero_of_lt enough)
  match list with
  | [] => exact absurd deep (Nat.not_lt_zero depth)
  | (name, v) :: list =>
      rw [members_of_nextName (nextName_writeMembers spacing level first name v list _),
        value_append spacing.isSpace_gap]
      rcases Nat.lt_or_ge depth v.nesting with valueDeep | inside
      · exact .bind (value_tooDeep v integers.1 valueDeep (level + 1) _) _
      · have head := value_write spacing v integers.1 inside (level + 1)
          (endsNumeral_writeMembers spacing level list rest)
        have later : depth < Value.membersNesting list := by
          rw [Value.membersNesting] at deep
          omega
        have tail := members_tooDeep list integers.2 later level false
          (Nat.lt_of_succ_lt_succ enough) rest
        rw [head]
        exact tail.bind _

end

/-! ## Compact texts -/

theorem value_print (v : Value) (integers : v.HasIntegers) {depth : Nat}
    (inside : v.nesting ≤ depth) {rest : List Char} (ends : EndsNumeral rest) :
    value depth (v.print ++ rest) = .ok (v, rest) := by
  rw [← v.write_compact 0]
  exact value_write .compact v integers inside 0 ends

theorem nextName_beforeMembers (first : Bool) (name : String) (v : Value)
    (list : List (String × Value)) (rest : List Char) :
    nextName first (beforeMembers first ((name, v) :: list) ++ rest) =
      .ok (some name, ':' :: v.print ++ beforeMembers false list ++ rest) := by
  have found := nextName_writeMembers .compact 0 first name v list rest
  rw [Value.writeMembers_compact, Value.writeMembers_compact, Value.write_compact] at found
  simpa [Spacing.compact] using found

theorem endsNumeral_beforeMembers (list : List (String × Value)) (rest : List Char) :
    EndsNumeral (beforeMembers false list ++ '\x7d' :: rest) := by
  rw [← Value.writeMembers_compact list 0]
  exact endsNumeral_writeMembers .compact 0 list rest

theorem length_le_printMembers (list : List (String × Value)) :
    list.length ≤ (Value.printMembers list).length := by
  have enough := length_le_writeMembers .compact 0 list true
  rwa [Value.writeMembers_compact, beforeMembers, if_pos (Or.inl rfl)] at enough

end Json
end GatewayTelemetry
