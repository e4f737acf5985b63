import GatewayTelemetry.Json.Reader

/-!
# Strings are read as they are written

Writing a string escapes one character after the other, and reading undoes one escape after the
other. No character below U+0020 is left in what is written, so a written string has no line end.
-/

namespace GatewayTelemetry
namespace Json

/-! ## Characters -/

theorem length_le_byteCount (text : List Char) : text.length ≤ byteCount text := by
  induction text with
  | nil => exact Nat.le_refl 0
  | cons c text ih =>
      have atLeastOne := c.utf8Size_pos
      simp only [byteCount, List.foldr_cons, List.length_cons] at ih ⊢
      omega

theorem hexEscape_of_lt {c : Char} (control : c.toNat < 0x20) (text : List Char) :
    hexEscape ('0' :: '0' :: Nat.digitChar (c.toNat / 16) :: Nat.digitChar (c.toNat % 16) ::
      text) = .ok (c.toNat, text) := by
  have enough : ¬byteCount ('0' :: '0' :: Nat.digitChar (c.toNat / 16) ::
      Nat.digitChar (c.toNat % 16) :: text) < 4 := by
    refine Nat.not_lt.mpr (Nat.le_trans ?_ (length_le_byteCount _))
    simp
  have zero : Text.hexValue? '0' = some 0 := rfl
  have digits : ((0 * 16 + 0) * 16 + c.toNat / 16) * 16 + c.toNat % 16 = c.toNat := by omega
  rw [hexEscape, if_neg enough, zero, Text.hexValue?_digitChar (by omega),
    Text.hexValue?_digitChar (by omega)]
  simp only [digits]

theorem unicodeEscape_of_lt {c : Char} (control : c.toNat < 0x20) (text : List Char) :
    unicodeEscape ('0' :: '0' :: Nat.digitChar (c.toNat / 16) :: Nat.digitChar (c.toNat % 16) ::
      text) = .ok (c, text) := by
  have notLow : isLowSurrogate c.toNat = false := by
    simp only [isLowSurrogate, Bool.and_eq_false_iff, decide_eq_false_iff_not]
    omega
  have notHigh : isHighSurrogate c.toNat = false := by
    simp only [isHighSurrogate, Bool.and_eq_false_iff, decide_eq_false_iff_not]
    omega
  rw [unicodeEscape, hexEscape_of_lt control]
  simp only [bind, Except.bind, notLow, notHigh, Char.ofNat_toNat, Bool.false_eq_true, if_false]

theorem contents_cons {c : Char} (noQuote : c ≠ '"') (noBackslash : c ≠ '\\')
    (noControl : ¬c.toNat < 0x20) (bound : Nat) (text : List Char) :
    contents (bound + 1) (c :: text) =
      (contents bound text).map fun read => (c :: read.1, read.2) := by
  rw [contents, if_neg noQuote, if_neg noBackslash, if_neg noControl]
  cases contents bound text <;> rfl

/-- An escape stands for the character that is read from it. -/
theorem contents_backslash {escaped text : List Char} {plain : Char}
    (read : escapeSequence escaped = .ok (plain, text)) (bound : Nat) :
    contents (bound + 1) ('\\' :: escaped) =
      (contents bound text).map fun read => (plain :: read.1, read.2) := by
  rw [contents, if_neg (by decide), if_pos rfl, read]
  simp only [bind, Except.bind]
  cases contents bound text <;> rfl

theorem escapeSequence_u (text : List Char) :
    escapeSequence ('u' :: text) = unicodeEscape text := by
  rw [escapeSequence, if_pos rfl]

/-- A written character is read as that character, and reading goes on behind it. -/
theorem contents_escape (c : Char) (bound : Nat) (text : List Char) :
    contents (bound + 1) (escape c ++ text) =
      (contents bound text).map fun read => (c :: read.1, read.2) := by
  unfold escape
  -- The seven characters with an escape of two characters each.
  repeat
    split
    · next same =>
        subst same
        exact contents_backslash rfl bound
  split
  · next control =>
      exact contents_backslash ((escapeSequence_u _).trans (unicodeEscape_of_lt control text)) bound
  · next noQuote noBackslash _ _ _ _ _ noControl =>
      exact contents_cons noQuote noBackslash noControl bound text

theorem escape_ne_nil (c : Char) : escape c ≠ [] := by
  unfold escape
  repeat' split
  all_goals exact List.cons_ne_nil _ _

/-- What is written for a character stays clear of U+0000 to U+001F. -/
theorem le_toNat_of_mem_escape {c written : Char} (present : written ∈ escape c) :
    0x20 ≤ written.toNat := by
  have digit : ∀ value, value < 16 → 0x20 ≤ (Nat.digitChar value).toNat := by decide
  unfold escape at present
  repeat' split at present
  all_goals
    simp only [List.mem_cons, List.not_mem_nil, or_false] at present
  all_goals try
    rcases present with rfl | rfl <;> decide
  · next control =>
      rcases present with rfl | rfl | rfl | rfl | rfl | rfl
      · decide
      · decide
      · decide
      · decide
      · exact digit _ (by omega)
      · exact digit _ (by omega)
  · next control => exact present ▸ Nat.le_of_not_lt control

/-! ## Strings -/

theorem contents_flatMap_escape (chars : List Char) {bound : Nat} (enough : chars.length < bound)
    (text : List Char) :
    contents bound (chars.flatMap escape ++ '"' :: text) = .ok (chars, text) := by
  induction chars generalizing bound with
  | nil =>
      obtain ⟨bound, rfl⟩ := Nat.exists_eq_add_one_of_ne_zero (Nat.ne_zero_of_lt enough)
      rfl
  | cons c chars ih =>
      obtain ⟨bound, rfl⟩ := Nat.exists_eq_add_one_of_ne_zero (Nat.ne_zero_of_lt enough)
      rw [List.flatMap_cons, List.append_assoc, contents_escape,
        ih (Nat.lt_of_succ_lt_succ enough)]
      rfl

theorem length_le_flatMap_escape (chars : List Char) :
    chars.length ≤ (chars.flatMap escape).length := by
  induction chars with
  | nil => exact Nat.le_refl 0
  | cons c chars ih =>
      have atLeastOne := List.length_pos_iff.mpr (escape_ne_nil c)
      simp only [List.flatMap_cons, List.length_append, List.length_cons]
      omega

/-- A string is read as it is written, through its closing quotation mark. -/
theorem string_quote (text : String) (rest : List Char) :
    string ((text.toList.flatMap escape ++ ['"']) ++ rest) = .ok (text, rest) := by
  have enough := length_le_flatMap_escape text.toList
  rw [string, List.append_assoc, List.singleton_append, contents_flatMap_escape]
  · simp only [bind, Except.bind, String.ofList_toList]
  · simp only [List.length_append, List.length_cons]
    omega

theorem le_toNat_of_mem_quote {text : String} {written : Char} (present : written ∈ quote text) :
    0x20 ≤ written.toNat := by
  simp only [quote, List.mem_cons, List.mem_append, List.mem_flatMap, List.not_mem_nil,
    or_false] at present
  rcases present with (rfl | ⟨c, -, inside⟩) | rfl
  · decide
  · exact le_toNat_of_mem_escape inside
  · decide

end Json
end GatewayTelemetry
