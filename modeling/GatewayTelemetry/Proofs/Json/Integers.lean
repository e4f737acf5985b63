import GatewayTelemetry.Json.Number

/-!
# Integers are read as they are written

An integer of the 64-bit ranges is written in decimal digits without leading zeros. Read in front
of a text that does not carry the numeral on, these digits give the integer back.
-/

namespace GatewayTelemetry
namespace Json

/-- An integer from `-2 ^ 63` to `2 ^ 64 - 1`; a binary64 number is none. -/
def Number.IsInteger64 : Number → Prop
  | .integer value => -(UInt64.size / 2 : Nat) ≤ value ∧ value < UInt64.size
  | .float _ => False

/-- The text does not carry on a numeral before it. -/
def EndsNumeral (text : List Char) : Prop :=
  ∀ c ∈ text.head?, c.isDigit = false ∧ c ≠ '.' ∧ c ≠ 'e' ∧ c ≠ 'E'

theorem endsNumeral_cons {c : Char} {text : List Char}
    (other : c.isDigit = false ∧ c ≠ '.' ∧ c ≠ 'e' ∧ c ≠ 'E') : EndsNumeral (c :: text) := by
  intro first same
  obtain rfl : c = first := by simpa using same
  exact other

/-! ## Digits -/

theorem isDigit_of_mem_toDigits {c : Char} {n : Nat} (present : c ∈ Nat.toDigits 10 n) :
    c.isDigit = true :=
  Nat.isDigit_of_mem_toDigits (by decide) (by decide) present

theorem head?_toDigits_ne_zero {n : Nat} (positive : 0 < n) :
    (Nat.toDigits 10 n).head? ≠ some '0' := by
  induction n using Nat.strongRecOn with
  | ind n ih =>
      rcases Nat.lt_or_ge n 10 with small | large
      · have each : ∀ n, n < 10 → 0 < n → Nat.digitChar n ≠ '0' := by decide
        rw [Nat.toDigits_of_lt_base small]
        simpa using each n small positive
      · have leading := ih (n / 10) (by omega) (by omega)
        obtain ⟨c, digits, split⟩ :=
          List.exists_cons_of_ne_nil (Nat.toDigits_ne_nil (b := 10) (n := n / 10))
        rw [split] at leading
        rw [Nat.toDigits_of_base_le (by decide) large, split]
        exact leading

/-- A number is written with one digit only where a zero comes first. -/
theorem length_toDigits_of_leading_zero {n : Nat} {digits : List Char}
    (zero : Nat.toDigits 10 n = '0' :: digits) : digits = [] := by
  rcases Nat.eq_zero_or_pos n with rfl | positive
  · rw [Nat.toDigits_zero] at zero
    exact (List.cons.inj zero).2.symm
  · exact absurd (by rw [zero]; rfl) (head?_toDigits_ne_zero positive)

theorem takeWhile_isDigit_append {digits text : List Char}
    (all : ∀ c ∈ digits, c.isDigit = true) (ends : EndsNumeral text) :
    (digits ++ text).takeWhile Char.isDigit = digits := by
  rw [List.takeWhile_append_of_pos all]
  cases text with
  | nil => simp
  | cons c text => simp [(ends c rfl).1]

theorem dropWhile_isDigit_append {digits text : List Char}
    (all : ∀ c ∈ digits, c.isDigit = true) (ends : EndsNumeral text) :
    (digits ++ text).dropWhile Char.isDigit = text := by
  rw [List.dropWhile_append_of_pos all]
  cases text with
  | nil => rfl
  | cons c text => simp [(ends c rfl).1]

/-! ## Significands -/

theorem le_ofDigitChars (digits : List Char) (significand : Nat) :
    significand ≤ Nat.ofDigitChars 10 digits significand := by
  induction digits generalizing significand with
  | nil => exact Nat.le_refl _
  | cons c digits ih =>
      rw [Nat.ofDigitChars_cons]
      exact Nat.le_trans (by omega) (ih _)

/-- Digits whose value fits the significand all go into it. -/
theorem gather_eq {digits : List Char} {significand : Nat}
    (fits : Nat.ofDigitChars 10 digits significand < UInt64.size) :
    gather significand digits = (Nat.ofDigitChars 10 digits significand, digits.length) := by
  induction digits generalizing significand with
  | nil => rfl
  | cons c digits ih =>
      rw [Nat.ofDigitChars_cons, Nat.mul_comm] at fits ⊢
      have grown := Nat.lt_of_le_of_lt (le_ofDigitChars digits _) fits
      rw [gather]
      simp only [digitValue, grown, if_true, ih fits, List.length_cons]

/-! ## Numerals -/

/-- Decimal digits of a number below `2 ^ 64` are read as that number with the sign before it. -/
theorem number_toDigits (negative : Bool) {n : Nat} (fits : n < UInt64.size) {text : List Char}
    (ends : EndsNumeral text) :
    number negative (Nat.toDigits 10 n ++ text) = .ok (integral negative n, text) := by
  obtain ⟨c, digits, split⟩ := List.exists_cons_of_ne_nil (Nat.toDigits_ne_nil (b := 10) (n := n))
  have all : ∀ d ∈ c :: digits, d.isDigit = true := fun d present =>
    isDigit_of_mem_toDigits (split ▸ present)
  have later : ∀ d ∈ digits, d.isDigit = true := fun d present =>
    all d (List.mem_cons_of_mem c present)
  have value : Nat.ofDigitChars 10 (c :: digits) 0 = n := by
    rw [← split, Nat.ofDigitChars_ten_toDigits]
  have noLeadingZero : ¬(c = '0' ∧ 1 < (c :: digits).length) := by
    rintro ⟨rfl, long⟩
    rw [length_toDigits_of_leading_zero split] at long
    exact absurd long (by decide)
  have gathered := @gather_eq (c :: digits) 0 (value ▸ fits)
  rw [split, List.cons_append, number, if_pos (all c List.mem_cons_self)]
  simp only [takeWhile_isDigit_append later ends, dropWhile_isDigit_append later ends,
    noLeadingZero, if_false, gathered, value, Nat.sub_self]
  cases text with
  | nil => rfl
  | cons d text =>
      obtain ⟨-, noPoint, noLower, noUpper⟩ := ends d rfl
      rw [afterInteger, if_pos rfl]
      · exact fun later same => noPoint (List.cons.inj same).1
      · exact fun later same => noLower (List.cons.inj same).1
      · exact fun later same => noUpper (List.cons.inj same).1

theorem integral_negSucc {n : Nat} (inRange : n + 1 ≤ UInt64.size / 2) :
    integral true (n + 1) = .integer (.negSucc n) := by
  rw [integral, if_pos rfl, if_pos ⟨by omega, inRange⟩]
  rfl

end Json
end GatewayTelemetry
