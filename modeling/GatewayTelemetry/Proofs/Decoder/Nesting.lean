import GatewayTelemetry.Decoder
import GatewayTelemetry.Proofs.Json.Reordered

/-!
# Payloads up to the nesting limit

A payload text that spells out a value is decoded to that value, if no more than 127 arrays and
objects are open at once in it, and is refused otherwise. How many items or members stand side by
side does not count.
-/

namespace GatewayTelemetry

open Json (Value)

namespace Payload

theorem decode_text (text : String) :
    decode (.text text) = (Json.parse text).mapError DecodeError.payload :=
  rfl

theorem decode_compact_of_nesting_le {tree : Value} (integers : tree.HasIntegers)
    (distinct : tree.HasDistinctNames) (inside : tree.nesting ≤ 127) :
    ∃ found, decode (.text tree.compact) = .ok found ∧ tree.Reordered found ∧ found.IsNormal ∧
      (tree.IsNormal → found = tree) := by
  refine ⟨tree.normalize, ?_, tree.reordered_normalize distinct, tree.isNormal_normalize,
    tree.normalize_of_isNormal⟩
  rw [decode_text, Json.parse_compact integers inside]
  rfl

theorem decode_compact_of_lt_nesting {tree : Value} (integers : tree.HasIntegers)
    (deep : 128 ≤ tree.nesting) :
    ∃ cause, decode (.text tree.compact) = .error (.payload cause) ∧ cause.reason = .tooDeep ∧
      (DecodeError.payload cause).message =
        "Parse error: " ++ ("Invalid JSON: " ++ cause.message) := by
  obtain ⟨cause, refused, reason⟩ := Json.parse_compact_tooDeep integers deep
  have wording : "Parse error: " ++ "Invalid JSON: " = "Parse error: Invalid JSON: " := by decide
  refine ⟨cause, ?_, reason, ?_⟩
  · rw [decode_text, refused]
    rfl
  · rw [← String.append_assoc, wording]
    rfl

/-- The text of a value is decoded to the value, up to the order of members, if it nests 127 deep
at most, and is refused as too deep otherwise. What counts is the deepest item or member. -/
theorem decode_compact_iff_nesting :
    (∀ tree : Value, tree.HasIntegers → tree.HasDistinctNames → tree.nesting ≤ 127 →
        ∃ found, decode (.text tree.compact) = .ok found ∧ tree.Reordered found ∧
          found.IsNormal ∧ (tree.IsNormal → found = tree)) ∧
      (∀ tree : Value, tree.HasIntegers → 128 ≤ tree.nesting →
        ∃ cause, decode (.text tree.compact) = .error (.payload cause) ∧
          cause.reason = .tooDeep ∧ (DecodeError.payload cause).message =
            "Parse error: " ++ ("Invalid JSON: " ++ cause.message)) ∧
      (∀ items, (Value.array items).nesting ≤ 127 ↔ ∀ item ∈ items, item.nesting ≤ 126) ∧
      ∀ members, (Value.object members).nesting ≤ 127 ↔
        ∀ member ∈ members, member.2.nesting ≤ 126 := by
  refine ⟨fun tree integers distinct inside =>
      decode_compact_of_nesting_le integers distinct inside,
    fun tree integers deep => decode_compact_of_lt_nesting integers deep, ?_, ?_⟩
  · intro items
    rw [Value.nesting, Nat.succ_le_succ_iff, Value.itemsNesting_le_iff]
  · intro members
    rw [Value.nesting, Nat.succ_le_succ_iff, Value.membersNesting_le_iff]

/-- Members out of order, the integers at both ends of the ranges, and escaped characters. -/
def sampleTree : Value :=
  .object [
    ("门", .array [.number (.integer (-9223372036854775808)),
      .number (.integer 18446744073709551615), .null]),
    ("\"\n", .object [("", .string "\\\u0000"), ("a", .boolean true)])]

def tower : Nat → Value
  | 0 => .null
  | count + 1 => .array [tower count]

theorem nesting_tower (count : Nat) : (tower count).nesting = count := by
  induction count with
  | zero => rfl
  | succ count ih => rw [tower, Value.nesting, Value.itemsNesting, Value.itemsNesting, ih,
      Nat.max_zero]

theorem hasIntegers_tower (count : Nat) : (tower count).HasIntegers := by
  induction count with
  | zero => trivial
  | succ count ih => exact ⟨ih, trivial⟩

theorem decode_compact_iff_nesting_sampleTree :
    ((sampleTree.HasIntegers ∧ sampleTree.HasDistinctNames ∧ sampleTree.nesting ≤ 127) ∧
      ∃ found, decode (.text sampleTree.compact) = .ok found ∧ sampleTree.Reordered found ∧
        found.IsNormal ∧ (sampleTree.IsNormal → found = sampleTree)) ∧
    ((tower 128).HasIntegers ∧ 128 ≤ (tower 128).nesting) ∧
      ∃ cause, decode (.text (tower 128).compact) = .error (.payload cause) ∧
        cause.reason = .tooDeep ∧ (DecodeError.payload cause).message =
          "Parse error: " ++ ("Invalid JSON: " ++ cause.message) := by
  have integers : sampleTree.HasIntegers :=
    ⟨⟨⟨by decide, by decide⟩, ⟨by decide, by decide⟩, trivial, trivial⟩,
      ⟨trivial, trivial, trivial⟩, trivial⟩
  have distinct : sampleTree.HasDistinctNames :=
    ⟨by decide, ⟨trivial, trivial, trivial, trivial⟩,
      ⟨by decide, trivial, trivial, trivial⟩, trivial⟩
  have inside : sampleTree.nesting ≤ 127 := by decide
  have deep : 128 ≤ (tower 128).nesting := Nat.le_of_eq (nesting_tower 128).symm
  refine ⟨⟨⟨integers, distinct, inside⟩, ?_⟩, ⟨hasIntegers_tower 128, deep⟩, ?_⟩
  · exact decode_compact_iff_nesting.1 sampleTree integers distinct inside
  · exact decode_compact_iff_nesting.2.1 (tower 128) (hasIntegers_tower 128) deep

end Payload
end GatewayTelemetry
