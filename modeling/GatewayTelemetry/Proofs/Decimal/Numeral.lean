import GatewayTelemetry.Decimal.Numeral
import Mathlib.Tactic.Ring

/-!
# Texts that are numerals

Each digit of a number counts for the power of ten of its place. Digits are read from the left, and
reading ends as soon as the number is too large. Digits that follow never make a number smaller, so
this refuses exactly the numbers that are too large as a whole.
-/

namespace GatewayTelemetry
namespace Decimal

/-- The number that digits stand for: each counts for the power of ten of its place. -/
def placeValue : List Char → Nat
  | [] => 0
  | c :: digits => (c.toNat - '0'.toNat) * 10 ^ digits.length + placeValue digits

/-- A text spells a number: it is an optional plus sign and at least one digit, and nothing
else. -/
def Spells (text : String) (number : Nat) : Prop :=
  ∃ sign digits, text.toList = sign ++ digits ∧ (sign = [] ∨ sign = ['+']) ∧ digits ≠ [] ∧
    (∀ c ∈ digits, c.isDigit = true) ∧ placeValue digits = number

/-- A text is a numeral for a number: it spells the number, which is below `2 ^ 64`. -/
def IsNumeral (text : String) (number : Nat) : Prop :=
  Spells text number ∧ number ≤ 2 ^ 64 - 1

/-! ## Reading digits -/

theorem readDigits_cons_eq_some_iff {value number : Nat} {c : Char} {digits : List Char} :
    readDigits value (c :: digits) = some number ↔
      c.isDigit = true ∧ value * 10 + (c.toNat - '0'.toNat) ≤ numeralLimit ∧
        readDigits (value * 10 + (c.toNat - '0'.toNat)) digits = some number := by
  rw [readDigits]
  split
  · next usable => exact ⟨fun read => ⟨usable.1, usable.2, read⟩, fun read => read.2.2⟩
  · next refused =>
      constructor
      · intro read
        cases read
      · rintro ⟨digit, grown, -⟩
        exact absurd ⟨digit, grown⟩ refused

/-- The first of the digits behind a number becomes its last one. -/
theorem shift_add_placeValue_cons (value : Nat) (c : Char) (digits : List Char) :
    value * 10 ^ (c :: digits).length + placeValue (c :: digits) =
      (value * 10 + (c.toNat - '0'.toNat)) * 10 ^ digits.length + placeValue digits := by
  rw [placeValue, List.length_cons]
  ring

/-- Digits behind a number never make it smaller. -/
theorem le_shift_add_placeValue (value : Nat) (digits : List Char) :
    value ≤ value * 10 ^ digits.length + placeValue digits :=
  calc
    value ≤ value * 10 ^ digits.length := Nat.le_mul_of_pos_right value (Nat.pow_pos (by decide))
    _ ≤ value * 10 ^ digits.length + placeValue digits := Nat.le_add_right _ _

/-- Digits are read behind a number unless one of them is none or the whole number is too large. -/
theorem readDigits_eq_some_iff {value number : Nat} {digits : List Char}
    (fits : value ≤ numeralLimit) :
    readDigits value digits = some number ↔
      (∀ c ∈ digits, c.isDigit = true) ∧
        value * 10 ^ digits.length + placeValue digits = number ∧ number ≤ numeralLimit := by
  induction digits generalizing value with
  | nil =>
      rw [readDigits, Option.some_inj, List.length_nil, placeValue, pow_zero, mul_one, add_zero]
      constructor
      · rintro rfl
        exact ⟨List.forall_mem_nil _, rfl, fits⟩
      · exact fun read => read.2.1
  | cons c digits ih =>
      rw [readDigits_cons_eq_some_iff, List.forall_mem_cons, shift_add_placeValue_cons]
      constructor
      · rintro ⟨digit, grown, read⟩
        obtain ⟨others, total, within⟩ := (ih grown).mp read
        exact ⟨⟨digit, others⟩, total, within⟩
      · rintro ⟨⟨digit, others⟩, total, within⟩
        -- what is read so far is no larger than the whole number, so the reading goes on
        have grown : value * 10 + (c.toNat - '0'.toNat) ≤ numeralLimit := by
          refine le_trans ?_ within
          rw [← total]
          exact le_shift_add_placeValue _ digits
        exact ⟨digit, grown, (ih grown).mpr ⟨others, total, within⟩⟩

/-! ## Signs -/

theorem unsignedPart_append {sign digits : List Char} (optional : sign = [] ∨ sign = ['+'])
    (all : ∀ c ∈ digits, c.isDigit = true) : unsignedPart (sign ++ digits) = digits := by
  rcases optional with rfl | rfl
  · cases digits with
    | nil => rfl
    | cons c digits =>
        rw [List.nil_append, unsignedPart]
        intro rest same
        obtain rfl : c = '+' := (List.cons.inj same).1
        exact absurd (all '+' List.mem_cons_self) (by decide)
  · rfl

theorem exists_sign (text : List Char) :
    ∃ sign, text = sign ++ unsignedPart text ∧ (sign = [] ∨ sign = ['+']) := by
  rw [unsignedPart.eq_def]
  split
  · exact ⟨['+'], rfl, .inr rfl⟩
  · exact ⟨[], rfl, .inl rfl⟩

theorem spells_iff {text : String} {number : Nat} :
    Spells text number ↔ unsignedPart text.toList ≠ [] ∧
      (∀ c ∈ unsignedPart text.toList, c.isDigit = true) ∧
      placeValue (unsignedPart text.toList) = number := by
  constructor
  · rintro ⟨sign, digits, split, optional, filled, all, value⟩
    rw [split, unsignedPart_append optional all]
    exact ⟨filled, all, value⟩
  · rintro ⟨filled, all, value⟩
    obtain ⟨sign, split, optional⟩ := exists_sign text.toList
    exact ⟨sign, _, split, optional, filled, all, value⟩

theorem Spells.eq {text : String} {number other : Nat} (spells : Spells text number)
    (also : Spells text other) : number = other :=
  (spells_iff.mp spells).2.2.symm.trans (spells_iff.mp also).2.2

/-- A text stands for a number exactly if it is a numeral for it. -/
theorem numeral?_eq_some_iff {text : String} {number : Nat} :
    numeral? text = some number ↔ IsNumeral text number := by
  rw [numeral?, IsNumeral, spells_iff]
  cases unsignedPart text.toList with
  | nil =>
      constructor
      · intro read
        cases read
      · rintro ⟨⟨filled, -⟩, -⟩
        exact absurd rfl filled
  | cons c digits =>
      rw [readDigits_eq_some_iff (Nat.zero_le numeralLimit), zero_mul, zero_add]
      constructor
      · rintro ⟨all, value, within⟩
        exact ⟨⟨List.cons_ne_nil c digits, all, value⟩, within⟩
      · rintro ⟨⟨-, all, value⟩, within⟩
        exact ⟨all, value, within⟩

end Decimal
end GatewayTelemetry
