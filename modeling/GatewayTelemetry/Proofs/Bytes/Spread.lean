import GatewayTelemetry.Message

/-!
# Texts byte by byte

A text that is sent as bytes is read with a character for each byte. ASCII characters stay what they
are, and each other character is spread over several characters, none of which is ASCII. So whatever
looks for ASCII characters finds them in the same places.
-/

namespace GatewayTelemetry

def IsAscii (c : Char) : Prop :=
  c.toNat < 0x80

instance (c : Char) : Decidable (IsAscii c) :=
  inferInstanceAs (Decidable (c.toNat < 0x80))

def OnlyAscii (text : List Char) : Prop :=
  ∀ c ∈ text, IsAscii c

instance (text : List Char) : Decidable (OnlyAscii text) :=
  List.decidableBAll IsAscii text

theorem OnlyAscii.head {c : Char} {text : List Char} (ascii : OnlyAscii (c :: text)) : IsAscii c :=
  ascii c List.mem_cons_self

theorem OnlyAscii.tail {c : Char} {text : List Char} (ascii : OnlyAscii (c :: text)) :
    OnlyAscii text :=
  fun d among => ascii d (List.mem_cons_of_mem c among)

/-- The characters whose codes are the bytes of a character. -/
def byteChars (c : Char) : List Char :=
  (String.utf8EncodeChar c).map fun code => Char.ofNat code.toNat

theorem toNat_ofNat_toNat (code : UInt8) : (Char.ofNat code.toNat).toNat = code.toNat := by
  have valid : code.toNat.isValidChar := .inl (Nat.lt_trans code.toNat_lt (by decide))
  rw [Char.ofNat, dif_pos valid]
  rfl

theorem byteChars_of_isAscii {c : Char} (ascii : IsAscii c) : byteChars c = [c] := by
  have low : c.val.toNat ≤ 0x7f := Nat.le_of_lt_succ ascii
  have code : (UInt8.ofNat c.val.toNat).toNat = c.toNat :=
    UInt8.toNat_ofNat_of_lt (Nat.lt_trans ascii (by decide))
  rw [byteChars, String.utf8EncodeChar, if_pos low, List.map_singleton, code, Char.ofNat_toNat]

theorem le_toNat_of_mem_utf8EncodeChar {c : Char} (foreign : ¬IsAscii c) :
    ∀ code ∈ String.utf8EncodeChar c, 0x80 ≤ code.toNat := by
  have long : ¬c.val.toNat ≤ 0x7f := fun low => foreign (Nat.lt_succ_of_le low)
  intro code present
  rw [String.utf8EncodeChar, if_neg long] at present
  -- Two, three or four bytes, each with its highest bit set.
  repeat' split at present
  all_goals
    simp only [List.mem_cons, List.not_mem_nil, or_false] at present
    rcases present with rfl | rfl | rfl | rfl
  all_goals
    rw [UInt8.toNat_ofNat']
    omega

/-- No byte of a character that is not ASCII is that of an ASCII character. -/
theorem not_isAscii_of_mem_byteChars {c : Char} (foreign : ¬IsAscii c) :
    ∀ d ∈ byteChars c, ¬IsAscii d := by
  intro d among
  obtain ⟨code, present, rfl⟩ := List.mem_map.mp among
  rw [IsAscii, toNat_ofNat_toNat]
  exact Nat.not_lt.mpr (le_toNat_of_mem_utf8EncodeChar foreign code present)

theorem byteChars_ne_nil (c : Char) : byteChars c ≠ [] := by
  simp [byteChars]

theorem ne_of_not_isAscii {c other : Char} (foreign : ¬IsAscii c) (ascii : IsAscii other) :
    c ≠ other := by
  rintro rfl
  exact foreign ascii

theorem isAscii_of_isDigit (c : Char) (digit : c.isDigit = true) : IsAscii c := by
  rw [Char.isDigit, Bool.and_eq_true, decide_eq_true_eq, decide_eq_true_eq] at digit
  exact Nat.lt_of_le_of_lt (UInt32.le_iff_toNat_le.mp digit.2) (by decide)

/-! ## Texts -/

/-- The characters whose codes are the bytes of a text. -/
def spread (text : List Char) : List Char :=
  text.flatMap byteChars

theorem spread_cons (c : Char) (text : List Char) :
    spread (c :: text) = byteChars c ++ spread text :=
  rfl

theorem spread_cons_of_isAscii {c : Char} (ascii : IsAscii c) (text : List Char) :
    spread (c :: text) = c :: spread text := by
  rw [spread_cons, byteChars_of_isAscii ascii]
  rfl

theorem spread_append (front back : List Char) :
    spread (front ++ back) = spread front ++ spread back :=
  List.flatMap_append

/-- An ASCII text has the same characters as bytes. -/
theorem spread_of_onlyAscii {text : List Char} (ascii : OnlyAscii text) : spread text = text := by
  induction text with
  | nil => rfl
  | cons c text ih =>
      rw [spread_cons_of_isAscii ascii.head, ih ascii.tail]

theorem exists_spread_eq_cons {c : Char} (foreign : ¬IsAscii c) (text : List Char) :
    ∃ d rest, spread (c :: text) = d :: rest ∧ ¬IsAscii d := by
  obtain ⟨d, more, split⟩ := List.exists_cons_of_ne_nil (byteChars_ne_nil c)
  refine ⟨d, more ++ spread text, ?_, ?_⟩
  · rw [spread_cons, split, List.cons_append]
  · exact not_isAscii_of_mem_byteChars foreign d (split ▸ List.mem_cons_self)

theorem exists_spread_eq_cons_avoiding (c : Char) (text : List Char) :
    ∃ d rest, spread (c :: text) = d :: rest ∧ ∀ other, IsAscii other → c ≠ other → d ≠ other := by
  by_cases ascii : IsAscii c
  · exact ⟨c, spread text, spread_cons_of_isAscii ascii text, fun other _ different => different⟩
  · obtain ⟨d, rest, split, foreign⟩ := exists_spread_eq_cons ascii text
    exact ⟨d, rest, split, fun other asciiToo _ => ne_of_not_isAscii foreign asciiToo⟩

theorem spread_ne_nil {text : List Char} (filled : text ≠ []) : spread text ≠ [] := by
  obtain ⟨c, text, rfl⟩ := List.exists_cons_of_ne_nil filled
  simp [spread_cons, byteChars_ne_nil]

section

variable {holds : Char → Bool} (onlyAscii : ∀ c, holds c = true → IsAscii c)

include onlyAscii

/-- The bytes of a text start with no ASCII character of a kind with which the text does not. -/
theorem exists_spread_eq_cons_of_not {c : Char} (other : ¬holds c = true) (text : List Char) :
    ∃ d rest, spread (c :: text) = d :: rest ∧ ¬holds d = true := by
  obtain ⟨d, rest, split, avoids⟩ := exists_spread_eq_cons_avoiding c text
  refine ⟨d, rest, split, fun yes => ?_⟩
  exact avoids d (onlyAscii d yes) (fun same => other (same ▸ yes)) rfl

/-- ASCII characters at the start of a text are those at the start of its bytes. -/
theorem takeWhile_spread (text : List Char) :
    (spread text).takeWhile holds = text.takeWhile holds := by
  induction text with
  | nil => rfl
  | cons c text ih =>
      by_cases ascii : IsAscii c
      · rw [spread_cons_of_isAscii ascii, List.takeWhile_cons, List.takeWhile_cons, ih]
      · obtain ⟨d, rest, split, other⟩ := exists_spread_eq_cons ascii text
        rw [split, List.takeWhile_cons_of_neg fun yes => other (onlyAscii d yes),
          List.takeWhile_cons_of_neg fun yes => ascii (onlyAscii c yes)]

theorem dropWhile_spread (text : List Char) :
    (spread text).dropWhile holds = spread (text.dropWhile holds) := by
  induction text with
  | nil => rfl
  | cons c text ih =>
      by_cases ascii : IsAscii c
      · rw [spread_cons_of_isAscii ascii, List.dropWhile_cons, List.dropWhile_cons, ih]
        split
        · rfl
        · exact (spread_cons_of_isAscii ascii text).symm
      · obtain ⟨d, rest, split, other⟩ := exists_spread_eq_cons ascii text
        rw [split, List.dropWhile_cons_of_neg fun yes => other (onlyAscii d yes),
          List.dropWhile_cons_of_neg fun yes => ascii (onlyAscii c yes), split]

end

theorem eq_cons_of_spread_eq_cons {text rest : List Char} {c : Char} (ascii : IsAscii c)
    (starts : spread text = c :: rest) : ∃ later, text = c :: later ∧ rest = spread later := by
  cases text with
  | nil => cases starts
  | cons d text =>
      by_cases asciiToo : IsAscii d
      · rw [spread_cons_of_isAscii asciiToo] at starts
        obtain ⟨rfl, rfl⟩ := List.cons.inj starts
        exact ⟨text, rfl, rfl⟩
      · obtain ⟨e, more, split, other⟩ := exists_spread_eq_cons asciiToo text
        obtain ⟨rfl, -⟩ := List.cons.inj (split.symm.trans starts)
        exact absurd ascii other

end GatewayTelemetry
