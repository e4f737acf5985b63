import Mathlib.Data.List.TakeWhile

/-!
# Texts up to a separator

What stands before the first separator of a text, what stands from there on, and the parts that all
separators leave of it.
-/

namespace GatewayTelemetry
namespace Text

variable {separator : Char} {front text : List Char}

theorem bne_of_not_mem (plain : separator ∉ text) : ∀ c ∈ text, (c != separator) = true := by
  intro c among
  simpa using fun same : c = separator => plain (same ▸ among)

theorem takeWhile_bne_of_not_mem (plain : separator ∉ text) :
    text.takeWhile (· != separator) = text :=
  List.takeWhile_eq_self_iff.mpr (bne_of_not_mem plain)

theorem dropWhile_bne_of_not_mem (plain : separator ∉ text) :
    text.dropWhile (· != separator) = [] :=
  List.dropWhile_eq_nil_iff.mpr (bne_of_not_mem plain)

theorem takeWhile_bne_append (plain : separator ∉ front) (back : List Char) :
    (front ++ separator :: back).takeWhile (· != separator) = front := by
  rw [List.takeWhile_append_of_pos (bne_of_not_mem plain), List.takeWhile_cons_of_neg (by simp),
    List.append_nil]

theorem dropWhile_bne_append (plain : separator ∉ front) (back : List Char) :
    (front ++ separator :: back).dropWhile (· != separator) = separator :: back := by
  rw [List.dropWhile_append_of_pos (bne_of_not_mem plain), List.dropWhile_cons_of_neg (by simp)]

/-- What a separator leaves of a text: parts without it, at least one, between which it stands. -/
structure IsSplit (separator : Char) (text : List Char) (parts : List (List Char)) : Prop where
  filled : parts ≠ []
  plain : ∀ part ∈ parts, separator ∉ part
  joined : [separator].intercalate parts = text

variable {parts : List (List Char)}

/-- There is one way to split a text. -/
theorem IsSplit.splitOn_eq (split : IsSplit separator text parts) :
    text.splitOn separator = parts := by
  rw [← split.joined]
  exact List.splitOn_intercalate separator split.plain split.filled

theorem not_mem_of_mem_splitOn {part : List Char} (among : part ∈ text.splitOn separator) :
    separator ∉ part := by
  induction text generalizing part with
  | nil =>
      rw [List.splitOn_nil, List.mem_singleton] at among
      exact among ▸ List.not_mem_nil
  | cons c text ih =>
      rw [List.splitOn_cons_eq_if_modifyHead] at among
      split at among
      · rcases List.mem_cons.mp among with rfl | later
        · exact List.not_mem_nil
        · exact ih later
      · next other =>
        obtain ⟨first, rest, split⟩ :=
          List.exists_cons_of_ne_nil (List.splitOn_ne_nil separator text)
        rw [split] at ih among
        rcases List.mem_cons.mp among with rfl | later
        · rw [List.mem_cons, not_or]
          exact ⟨fun same => other (by simp [same]), ih List.mem_cons_self⟩
        · exact ih (List.mem_cons_of_mem first later)

theorem isSplit_splitOn (separator : Char) (text : List Char) :
    IsSplit separator text (text.splitOn separator) where
  filled := List.splitOn_ne_nil separator text
  plain _ among := not_mem_of_mem_splitOn among
  joined := List.intercalate_splitOn separator

end Text
end GatewayTelemetry
