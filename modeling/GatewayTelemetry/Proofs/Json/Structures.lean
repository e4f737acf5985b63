import GatewayTelemetry.Json.Typed
import GatewayTelemetry.Proofs.Json.Normal
import GatewayTelemetry.Proofs.Json.Skipping

/-!
# Structures are read or refused

A reader of structures finds out while it reads whether a value has the shape that it expects. What
it makes of the text of a value is a matter of the value alone: there is a result for it, which is
read whatever stands behind the text, or there is none and the text is refused.
-/

namespace GatewayTelemetry
namespace Json

variable {α β σ : Type}

/-- The expected result is read and the rest is left; without a result, the text is refused. -/
def Gives (expected : Option α) (rest : List Char) (outcome : Except Fault (α × List Char)) :
    Prop :=
  match expected with
  | some result => outcome = .ok (result, rest)
  | none => ∃ fault, outcome = .error fault

namespace Gives

theorem of_ok {result : α} {rest : List Char} {outcome : Except Fault (α × List Char)}
    (read : outcome = .ok (result, rest)) : Gives (some result) rest outcome :=
  read

theorem of_error {fault : Fault} (rest : List Char) :
    Gives (none : Option α) rest (.error fault) :=
  ⟨fault, rfl⟩

/-- What is read decides on what is expected next. -/
theorem bind {expected : Option α} {middle rest : List Char}
    {outcome : Except Fault (α × List Char)} (first : Gives expected middle outcome)
    {step : α → Option β} {next : α × List Char → Except Fault (β × List Char)}
    (second : ∀ result, expected = some result → Gives (step result) rest (next (result, middle))) :
    Gives (expected.bind step) rest (outcome >>= next) := by
  cases expected with
  | none =>
      obtain ⟨fault, rfl⟩ := first
      exact of_error rest
  | some result =>
      rw [show outcome = .ok (result, middle) from first]
      exact second result rfl

theorem map {expected : Option α} {rest : List Char}
    {outcome : Except Fault (α × List Char)} (first : Gives expected rest outcome) (f : α → β) :
    Gives (expected.map f) rest (outcome >>= fun read => .ok (f read.1, read.2)) := by
  rw [Option.map_eq_bind]
  exact first.bind fun _ _ => of_ok rfl

end Gives

/-! ## Documents -/

theorem exists_of_document_eq_ok {reader : Reader α} {text : String} {result : α}
    (read : document reader text = .ok result) :
    ∃ rest, reader text.toList = .ok (result, rest) := by
  rw [document] at read
  cases outcome : reader text.toList with
  | error fault =>
      rw [outcome] at read
      cases read
  | ok found =>
      obtain ⟨other, rest⟩ := found
      rw [outcome] at read
      simp only [bind, Except.bind] at read
      split at read
      · cases read
        exact ⟨rest, rfl⟩
      · cases read

/-- A document that the reader refuses is refused. -/
theorem document_eq_error {reader : Reader α} {text : String}
    (refused : ∃ fault, reader text.toList = .error fault) :
    ∃ cause, document reader text = .error cause := by
  obtain ⟨fault, refused⟩ := refused
  rw [document, refused]
  exact ⟨_, rfl⟩

/-- A document with nothing behind what is read holds the expected result. -/
theorem document_eq_ok_iff {reader : Reader α} {text : List Char} {expected : Option α}
    (gives : Gives expected [] (reader text)) {result : α} :
    document reader (String.ofList text) = .ok result ↔ expected = some result := by
  cases expected with
  | none =>
      obtain ⟨fault, refused⟩ := gives
      rw [document, String.toList_ofList, refused]
      constructor
      · intro read
        cases read
      · intro same
        cases same
  | some other =>
      rw [document_ofList gives]
      simp

theorem document_eq_error_iff {reader : Reader α} {text : List Char} {expected : Option α}
    (gives : Gives expected [] (reader text)) :
    (∃ cause, document reader (String.ofList text) = .error cause) ↔ expected = none := by
  cases expected with
  | none =>
      apply iff_of_true _ rfl
      apply document_eq_error
      rwa [String.toList_ofList]
  | some result =>
      rw [document_ofList gives]
      simp

/-! ## Members -/

theorem fields_cons (field : σ → String → Reader σ) (first : Bool) (bound : Nat) (state : σ)
    (name : String) (v : Value) (list : List (String × Value)) (rest : List Char) :
    fields field (bound + 1) first state (beforeMembers first ((name, v) :: list) ++ rest) =
      (do
        let (state, text) ← field state name (':' :: v.print ++ beforeMembers false list ++ rest)
        fields field bound false state text) := by
  rw [fields, nextName_beforeMembers]
  rfl

theorem fields_close (field : σ → String → Reader σ) (first : Bool) (bound : Nat) (state : σ)
    (rest : List Char) :
    fields field (bound + 1) first state (beforeMembers first [] ++ '\x7d' :: rest) =
      .ok (state, rest) := by
  rw [beforeMembers, if_pos (Or.inr rfl), Value.printMembers, List.nil_append, fields]
  rfl

/-- Members are read one after the other as long as each of them is expected. -/
theorem gives_fields {field : σ → String → Reader σ} {step : σ → String × Value → Option σ}
    {list : List (String × Value)}
    (steps : ∀ state, ∀ member ∈ list, ∀ rest, EndsNumeral rest →
      Gives (step state member) rest (field state member.1 (':' :: member.2.print ++ rest)))
    (first : Bool) {bound : Nat} (enough : list.length < bound) (state : σ) (rest : List Char) :
    Gives (list.foldlM step state) rest
      (fields field bound first state (beforeMembers first list ++ '\x7d' :: rest)) := by
  induction list generalizing first bound state with
  | nil =>
      obtain ⟨bound, rfl⟩ := Nat.exists_eq_add_one_of_ne_zero (Nat.ne_zero_of_lt enough)
      exact .of_ok (fields_close field first bound state rest)
  | cons member list ih =>
      obtain ⟨bound, rfl⟩ := Nat.exists_eq_add_one_of_ne_zero (Nat.ne_zero_of_lt enough)
      have head := steps state member List.mem_cons_self _ (endsNumeral_beforeMembers list rest)
      rw [List.foldlM_cons, fields_cons, List.append_assoc]
      apply head.bind
      intro next _
      apply ih
      · exact fun state member among => steps state member (List.mem_cons_of_mem _ among)
      · exact Nat.lt_of_succ_lt_succ enough

/-- The bound on the number of members is that of the text behind an opening brace. -/
theorem length_lt_of_printMembers (list : List (String × Value)) (rest : List Char) :
    list.length < (Value.printMembers list ++ '\x7d' :: rest).length + 1 := by
  have := length_le_printMembers list
  rw [List.length_append]
  omega

theorem gives_fields_object {field : σ → String → Reader σ}
    {step : σ → String × Value → Option σ} {list : List (String × Value)}
    (steps : ∀ state, ∀ member ∈ list, ∀ rest, EndsNumeral rest →
      Gives (step state member) rest (field state member.1 (':' :: member.2.print ++ rest)))
    (state : σ) (rest : List Char) :
    Gives (list.foldlM step state) rest
      (fields field ((Value.printMembers list ++ '\x7d' :: rest).length + 1) true state
        (Value.printMembers list ++ '\x7d' :: rest)) := by
  have gives := gives_fields steps true (length_lt_of_printMembers list rest) state rest
  rwa [beforeMembers, if_pos (Or.inl rfl)] at gives

/-! ## Items -/

theorem nextItem_printItems {item : Value} (integers : item.HasIntegers) (list : List Value)
    (rest : List Char) :
    nextItem true (Value.printItems (item :: list) ++ rest) =
      .ok (true, item.print ++ (beforeItems false list ++ rest)) := by
  have found := nextItem_writeItems .compact 0 true integers list rest
  rw [Value.writeItems_compact, Value.writeItems_compact, Value.write_compact] at found
  rwa [beforeItems, if_pos (Or.inl rfl)] at found

theorem nextItem_beforeItems {item : Value} (integers : item.HasIntegers) (list : List Value)
    (rest : List Char) :
    nextItem false (beforeItems false (item :: list) ++ rest) =
      .ok (true, item.print ++ (beforeItems false list ++ rest)) := by
  have found := nextItem_writeItems .compact 0 false integers list rest
  rwa [Value.writeItems_compact, Value.writeItems_compact, Value.write_compact] at found

theorem endOfList_beforeItems (item : Value) (list : List Value) (rest : List Char) :
    ∃ fault, endOfList (beforeItems false (item :: list) ++ rest) = .error fault := by
  rw [beforeItems_cons, comma, if_neg Bool.false_ne_true, List.append_assoc,
    List.singleton_append, endOfList, skipSpace_cons (by decide)]
  simp only [Char.reduceEq, if_false, if_true]
  split
  · exact ⟨_, rfl⟩
  · exact ⟨_, rfl⟩

/-! ## Kinds of values -/

/-- Where the kind of a value is wrong, no text is admitted. -/
theorem wrongKind_eq_error (expected : String) (text : List Char) :
    ∃ fault, (wrongKind expected text : Except Fault α) = .error fault := by
  rw [wrongKind]
  cases skipSpace text with
  | nil => exact ⟨_, rfl⟩
  | cons c rest =>
      dsimp only
      split
      · exact ⟨_, rfl⟩
      · split
        · exact ⟨_, rfl⟩
        · cases scalar (c :: rest) with
          | error fault => exact ⟨fault, rfl⟩
          | ok read => exact ⟨_, rfl⟩

/-- A text that starts with a brace spells out an object, if anything. -/
theorem exists_object_of_parse {text : String} {rest : List Char}
    (brace : skipSpace text.toList = '\x7b' :: rest) {found : Value}
    (parsed : parse text = .ok found) : ∃ members, found = .object members := by
  rw [parse] at parsed
  cases outcome : document (value depthLimit) text with
  | error cause =>
      rw [outcome] at parsed
      cases parsed
  | ok tree =>
      rw [outcome] at parsed
      obtain ⟨behind, read⟩ := exists_of_document_eq_ok outcome
      rw [depthLimit, value, brace] at read
      simp only [Char.reduceEq, if_false, if_true] at read
      cases list : members (value 126) (rest.length + 1) true rest with
      | error fault =>
          rw [list] at read
          cases read
      | ok result =>
          rw [list] at read
          cases read
          exact ⟨_, (Except.ok.inj parsed).symm⟩

theorem Value.text?_eq_some_iff {found : Value} {content : String} :
    found.text? = some content ↔ found = .string content := by
  cases found with
  | string other => simp [Value.text?]
  | _ => simp [Value.text?]

def Value.IsScalar : Value → Prop
  | .array _ => False
  | .object _ => False
  | _ => True

theorem Value.exists_print_eq_cons_of_isScalar {value : Value} (integers : value.HasIntegers)
    (isScalar : value.IsScalar) :
    ∃ c text, value.print = c :: text ∧ isSpace c = false ∧ c ≠ '[' ∧ c ≠ '\x7b' := by
  cases value with
  | null => exact ⟨'n', _, rfl, by decide⟩
  | boolean truth =>
      cases truth with
      | false => exact ⟨'f', _, rfl, by decide⟩
      | true => exact ⟨'t', _, rfl, by decide⟩
  | number numeral =>
      cases numeral with
      | float value => exact integers.elim
      | integer value =>
          obtain ⟨c, text, print, starts⟩ := exists_integerText_eq_cons value
          exact ⟨c, text, print, starts.starts.1, starts.ne (by decide), starts.ne (by decide)⟩
  | string text => exact ⟨'"', _, rfl, by decide⟩
  | array items => exact isScalar.elim
  | object members => exact isScalar.elim

end Json
end GatewayTelemetry
