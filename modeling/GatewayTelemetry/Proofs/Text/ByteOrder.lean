import Mathlib.Data.List.Basic

/-!
# The order of texts is that of their bytes

Texts are compared character by character. Comparing their UTF-8 bytes comes to the same: a greater
character has a greater first byte, or the same first bytes and then a greater one.
-/

namespace GatewayTelemetry
namespace Text

/-- The bytes of a lower character come before those of a higher one, whatever follows. -/
theorem utf8EncodeChar_append_lt {c d : Char} (before : c < d) (back other : List UInt8) :
    String.utf8EncodeChar c ++ back < String.utf8EncodeChar d ++ other := by
  have lower : c.val.toNat < d.val.toNat := before
  have isValid : d.val.toNat.isValidChar := d.valid
  simp only [Nat.isValidChar] at isValid
  unfold String.utf8EncodeChar
  generalize c.val.toNat = m at lower
  generalize d.val.toNat = n at lower isValid
  -- A number is compared by its quotient and then by its remainder, one level after the other.
  have quotients (k : Nat) : k / 4096 = k / 64 / 64 ∧ k / 262144 = k / 64 / 64 / 64 := by omega
  dsimp only
  -- The lengths differ, which shows in the first bytes, or there are one to four bytes each.
  split_ifs
  all_goals
    simp only [List.cons_append, List.nil_append, List.cons_lt_cons_iff, UInt8.lt_iff_toNat_lt,
      ← UInt8.toNat_inj, UInt8.toNat_ofNat', (quotients _).1, (quotients _).2]
    omega

theorem flatMap_utf8EncodeChar_lt {text other : List Char} (before : text < other) :
    text.flatMap String.utf8EncodeChar < other.flatMap String.utf8EncodeChar := by
  induction text generalizing other with
  | nil =>
      cases other with
      | nil => exact absurd before (List.lt_irrefl [])
      | cons d other =>
          rw [List.flatMap_nil, List.flatMap_cons]
          cases bytes : String.utf8EncodeChar d with
          | nil => simp at bytes
          | cons byte bytes => exact List.nil_lt_cons _ _
  | cons c text ih =>
      cases other with
      | nil => exact absurd before (List.not_lt_nil _)
      | cons d other =>
          rw [List.flatMap_cons, List.flatMap_cons]
          rcases List.cons_lt_cons_iff.mp before with lower | ⟨rfl, later⟩
          · exact utf8EncodeChar_append_lt lower _ _
          · exact List.append_left_lt (ih later)

def bytes (text : String) : List UInt8 :=
  text.toUTF8.data.toList

theorem bytes_lt_of_lt {text other : String} (before : text < other) :
    bytes text < bytes other := by
  have encoded (text : String) : bytes text = text.toList.flatMap String.utf8EncodeChar := by
    rw [bytes, String.toUTF8, ← String.utf8Encode_toList, List.utf8Encode,
      List.toList_data_toByteArray]
  rw [encoded, encoded]
  exact flatMap_utf8EncodeChar_lt before

end Text
end GatewayTelemetry
