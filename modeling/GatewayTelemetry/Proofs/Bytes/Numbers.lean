import GatewayTelemetry.Proofs.Bytes.Strings

/-!
# Reading numbers byte by byte

Every character of a numeral is ASCII, so a numeral is the same in a text and in its bytes, and it
ends in the same place.
-/

namespace GatewayTelemetry
namespace Json

variable (negative : Bool) (significand : Nat) (power : Int)

/-- A number is read, or refused, with what is left of a text. -/
abbrev SameNumbers (text : List Char) : Except Fault (Number × List Char) →
    Except Fault (Number × List Char) → Prop :=
  Alike (Results Eq 0 text)

theorem SameNumbers.after {text rest : List Char} {least : Nat} {other : List Char}
    {x y : Except Fault (Number × List Char)} (left : Rest least text rest other)
    (later : SameNumbers rest x y) : SameNumbers text x y :=
  later.mono fun _ _ found => found.after left

theorem alike_scaled (text : List Char) :
    SameNumbers text (scaled negative significand power text)
      (scaled negative significand power (spread text)) := by
  unfold scaled
  cases scale significand.toUInt64.toFloat power with
  | some value => exact .read ⟨rfl, .refl text⟩
  | none => exact .refused trivial

theorem rest_exponentDigits (value : Nat) (text : List Char) :
    (exponentDigits value text).1 = (exponentDigits value (spread text)).1 ∧
      Rest 0 text (exponentDigits value text).2 (exponentDigits value (spread text)).2 := by
  induction text generalizing value with
  | nil => exact ⟨rfl, .refl []⟩
  | cons c text ih =>
      by_cases digit : c.isDigit = true
      · rw [spread_cons_of_isAscii (isAscii_of_isDigit c digit), exponentDigits, exponentDigits,
          if_pos digit, if_pos digit]
        dsimp only
        split
        · exact ⟨rfl, (Rest.refl text).later c⟩
        · obtain ⟨same, left⟩ := ih (value * 10 + digitValue c)
          exact ⟨same, left.later c⟩
      · have kept := Rest.refl (c :: text)
        obtain ⟨d, rest, split, other⟩ := exists_spread_eq_cons_of_not isAscii_of_isDigit digit text
        rw [split] at kept ⊢
        rw [exponentDigits, exponentDigits, if_neg digit, if_neg other]
        exact ⟨rfl, kept⟩

theorem alike_exponentValue (lowers : Bool) (text : List Char) :
    SameNumbers text (exponentValue negative significand power lowers text)
      (exponentValue negative significand power lowers (spread text)) := by
  cases text with
  | nil => exact .refused trivial
  | cons c text =>
      by_cases digit : c.isDigit = true
      · obtain ⟨same, left⟩ := rest_exponentDigits 0 (c :: text)
        rw [spread_cons_of_isAscii (isAscii_of_isDigit c digit)] at same left ⊢
        unfold exponentValue
        dsimp only
        rw [if_pos digit, if_pos digit]
        rw [← same, left.1]
        split
        · split
          · exact .read ⟨rfl, left.trans (rest_dropWhile isAscii_of_isDigit _)⟩
          · exact .refused trivial
        · exact .after left (alike_scaled negative significand _ _)
      · obtain ⟨d, rest, split, other⟩ := exists_spread_eq_cons_of_not isAscii_of_isDigit digit text
        rw [split]
        unfold exponentValue
        dsimp only
        rw [if_neg digit, if_neg other]
        exact .refused trivial

theorem exponent_of_not_sign {c : Char} (notPlus : c ≠ '+') (notMinus : c ≠ '-')
    (text : List Char) :
    exponent negative significand power (c :: text) =
      exponentValue negative significand power false (c :: text) := by
  rw [exponent]
  · exact fun _ same => notPlus (List.cons.inj same).1
  · exact fun _ same => notMinus (List.cons.inj same).1

theorem alike_exponent (text : List Char) :
    SameNumbers text (exponent negative significand power text)
      (exponent negative significand power (spread text)) := by
  cases text with
  | nil => exact .refused trivial
  | cons c text =>
      by_cases plus : c = '+'
      · subst plus
        rw [spread_cons_of_isAscii (by decide)]
        exact .after (.tail _ _) (alike_exponentValue negative significand power false text)
      · by_cases minus : c = '-'
        · subst minus
          rw [spread_cons_of_isAscii (by decide)]
          exact .after (.tail _ _) (alike_exponentValue negative significand power true text)
        · have later := alike_exponentValue negative significand power false (c :: text)
          obtain ⟨d, rest, split, avoids⟩ := exists_spread_eq_cons_avoiding c text
          rw [split] at later ⊢
          rw [exponent_of_not_sign _ _ _ plus minus, exponent_of_not_sign _ _ _
            (avoids _ (by decide) plus) (avoids _ (by decide) minus)]
          exact later

theorem afterFraction_of_not_mark {c : Char} (notLower : c ≠ 'e') (notUpper : c ≠ 'E')
    (text : List Char) :
    afterFraction negative significand power (c :: text) =
      scaled negative significand power (c :: text) := by
  rw [afterFraction]
  · exact fun _ same => notLower (List.cons.inj same).1
  · exact fun _ same => notUpper (List.cons.inj same).1

theorem alike_afterFraction (text : List Char) :
    SameNumbers text (afterFraction negative significand power text)
      (afterFraction negative significand power (spread text)) := by
  cases text with
  | nil => exact alike_scaled negative significand power []
  | cons c text =>
      by_cases lower : c = 'e'
      · subst lower
        rw [spread_cons_of_isAscii (by decide)]
        exact .after (.tail _ _) (alike_exponent negative significand power text)
      · by_cases upper : c = 'E'
        · subst upper
          rw [spread_cons_of_isAscii (by decide)]
          exact .after (.tail _ _) (alike_exponent negative significand power text)
        · have later := alike_scaled negative significand power (c :: text)
          obtain ⟨d, rest, split, avoids⟩ := exists_spread_eq_cons_avoiding c text
          rw [split] at later ⊢
          rw [afterFraction_of_not_mark _ _ _ lower upper, afterFraction_of_not_mark _ _ _
            (avoids _ (by decide) lower) (avoids _ (by decide) upper)]
          exact later

theorem alike_fraction (text : List Char) :
    SameNumbers text (fraction negative significand power text)
      (fraction negative significand power (spread text)) := by
  have left := rest_dropWhile isAscii_of_isDigit text
  unfold fraction
  dsimp only
  rw [takeWhile_spread isAscii_of_isDigit]
  split
  · exact .refused trivial
  · rw [left.1]
    exact .after left (alike_afterFraction negative _ _ _)

theorem afterInteger_of_not_mark (dropped : Nat) {c : Char} (notPoint : c ≠ '.')
    (notLower : c ≠ 'e') (notUpper : c ≠ 'E') (text : List Char) :
    afterInteger negative significand dropped (c :: text) =
      if dropped = 0 then .ok (integral negative significand, c :: text)
      else scaled negative significand dropped (c :: text) := by
  rw [afterInteger]
  · exact fun _ same => notPoint (List.cons.inj same).1
  · exact fun _ same => notLower (List.cons.inj same).1
  · exact fun _ same => notUpper (List.cons.inj same).1

theorem alike_afterInteger (dropped : Nat) (text : List Char) :
    SameNumbers text (afterInteger negative significand dropped text)
      (afterInteger negative significand dropped (spread text)) := by
  have ended : ∀ text, SameNumbers text
      (if dropped = 0 then .ok (integral negative significand, text)
        else scaled negative significand dropped text)
      (if dropped = 0 then .ok (integral negative significand, spread text)
        else scaled negative significand dropped (spread text)) := by
    intro text
    split
    · exact .read ⟨rfl, .refl text⟩
    · exact alike_scaled negative significand dropped text
  cases text with
  | nil => exact ended []
  | cons c text =>
      by_cases point : c = '.'
      · subst point
        rw [spread_cons_of_isAscii (by decide)]
        exact .after (.tail _ _) (alike_fraction negative significand dropped text)
      · by_cases lower : c = 'e'
        · subst lower
          rw [spread_cons_of_isAscii (by decide)]
          exact .after (.tail _ _) (alike_exponent negative significand dropped text)
        · by_cases upper : c = 'E'
          · subst upper
            rw [spread_cons_of_isAscii (by decide)]
            exact .after (.tail _ _) (alike_exponent negative significand dropped text)
          · have later := ended (c :: text)
            obtain ⟨d, rest, split, avoids⟩ := exists_spread_eq_cons_avoiding c text
            rw [split] at later ⊢
            rw [afterInteger_of_not_mark _ _ _ point lower upper, afterInteger_of_not_mark _ _ _
              (avoids _ (by decide) point) (avoids _ (by decide) lower)
              (avoids _ (by decide) upper)]
            exact later

/-- A number is read from a text as it is from its bytes. -/
theorem alike_number (text : List Char) :
    Alike (Results Eq 1 text) (number negative text) (number negative (spread text)) := by
  cases text with
  | nil => exact .refused trivial
  | cons c text =>
      by_cases digit : c.isDigit = true
      · have left := rest_dropWhile isAscii_of_isDigit text
        rw [spread_cons_of_isAscii (isAscii_of_isDigit c digit)]
        unfold number
        dsimp only
        rw [if_pos digit, if_pos digit]
        rw [takeWhile_spread isAscii_of_isDigit]
        split
        · exact .refused trivial
        · rw [left.1]
          refine (alike_afterInteger negative _ _ _).mono fun a b ⟨same, further⟩ => ⟨same, ?_⟩
          exact (left.cons c).trans further
      · obtain ⟨d, rest, split, other⟩ := exists_spread_eq_cons_of_not isAscii_of_isDigit digit text
        rw [split]
        unfold number
        dsimp only
        rw [if_neg digit, if_neg other]
        exact .refused trivial

end Json
end GatewayTelemetry
