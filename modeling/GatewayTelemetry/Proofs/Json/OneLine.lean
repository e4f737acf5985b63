import GatewayTelemetry.Proofs.Json.RoundTrip

/-!
# Compact texts are one line

The compact text of a value has no control character: what stands outside of strings is ASCII
punctuation, letters and digits, and inside of strings control characters are escaped. So a value
fits on a line, and that line is not blank.
-/

namespace GatewayTelemetry
namespace Json

/-- No character of a text comes before the space. -/
def NoControl (text : List Char) : Prop :=
  ∀ c ∈ text, 0x20 ≤ c.toNat

instance (text : List Char) : Decidable (NoControl text) :=
  List.decidableBAll (fun c : Char => 0x20 ≤ c.toNat) text

namespace NoControl

theorem nil : NoControl [] := by
  intro c present
  simp at present

theorem cons {c : Char} (head : 0x20 ≤ c.toNat) {text : List Char} (tail : NoControl text) :
    NoControl (c :: text) :=
  List.forall_mem_cons.mpr ⟨head, tail⟩

theorem append {front back : List Char} (first : NoControl front) (second : NoControl back) :
    NoControl (front ++ back) :=
  List.forall_mem_append.mpr ⟨first, second⟩

/-- Characters that end lines are control characters. -/
theorem not_mem {text : List Char} (clean : NoControl text) {c : Char} (control : c.toNat < 0x20) :
    c ∉ text :=
  fun present => Nat.not_le.mpr control (clean c present)

theorem of_isDigit {text : List Char} (digits : ∀ c ∈ text, c.isDigit = true) :
    NoControl text := by
  intro c present
  have digit := digits c present
  simp only [Char.isDigit, Bool.and_eq_true, decide_eq_true_eq, ge_iff_le] at digit
  have low : ('0' : Char).toNat ≤ c.toNat := digit.1
  exact Nat.le_trans (by decide) low

end NoControl

theorem noControl_quote (text : String) : NoControl (quote text) :=
  fun _ present => le_toNat_of_mem_quote present

theorem noControl_integerText (value : Int) : NoControl (integerText value) := by
  cases value with
  | ofNat n => exact .of_isDigit fun c => isDigit_of_mem_toDigits
  | negSucc n => exact .cons (by decide) (.of_isDigit fun c => isDigit_of_mem_toDigits)

namespace Value

mutual

theorem noControl_print (value : Value) (integers : value.HasIntegers) :
    NoControl value.print := by
  cases value with
  | null => decide
  | boolean truth => cases truth <;> decide
  | number numeral =>
      cases numeral with
      | integer value => exact noControl_integerText value
      | float value => exact integers.elim
  | string text => exact noControl_quote text
  | array items =>
      exact .append (.cons (by decide) (noControl_printItems items integers))
        (.cons (by decide) .nil)
  | object members =>
      exact .append (.cons (by decide) (noControl_printMembers members integers))
        (.cons (by decide) .nil)

theorem noControl_printItems (items : List Value) (integers : ItemsHaveIntegers items) :
    NoControl (printItems items) := by
  cases items with
  | nil => exact .nil
  | cons item items =>
      have head := noControl_print item integers.1
      have tail := noControl_printItems items integers.2
      cases items with
      | nil => exact head
      | cons next items => exact head.append (.cons (by decide) tail)

theorem noControl_printMembers (members : List (String × Value))
    (integers : MembersHaveIntegers members) : NoControl (printMembers members) := by
  match members with
  | [] => exact .nil
  | (name, value) :: members =>
      have head : NoControl (quote name ++ ':' :: value.print) :=
        (noControl_quote name).append (.cons (by decide) (noControl_print value integers.1))
      have tail := noControl_printMembers members integers.2
      cases members with
      | nil => exact head
      | cons next members => exact head.append (.cons (by decide) tail)

end

end Value
end Json
end GatewayTelemetry
