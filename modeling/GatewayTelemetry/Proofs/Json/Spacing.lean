import GatewayTelemetry.Json.Reader

/-!
# Blanks between the parts of a text

The compact and the indented text of a value differ in the blanks between its parts only. Both are
written with a spacing, which says what stands before each item and member, before the end of an
array or object that is not empty, and behind each colon.
-/

namespace GatewayTelemetry
namespace Json

/-- The blanks with which a value is written. -/
structure Spacing where
  /-- What stands before an item or a member at a level of nesting. -/
  line : Nat → List Char
  gap : List Char
  isSpace_line : ∀ level, ∀ c ∈ line level, isSpace c = true
  isSpace_gap : ∀ c ∈ gap, isSpace c = true

namespace Spacing

def compact : Spacing where
  line _ := []
  gap := []
  isSpace_line _ _ present := absurd present List.not_mem_nil
  isSpace_gap _ present := absurd present List.not_mem_nil

/-- A line for each item and member, indented by its level. -/
def indented : Spacing where
  line := Value.newLine
  gap := [' ']
  isSpace_line level c present := by
    rcases List.mem_cons.mp present with rfl | present
    · rfl
    · rw [List.eq_of_mem_replicate present]
      rfl
  isSpace_gap c present := by
    rw [List.mem_singleton.mp present]
    rfl

end Spacing

/-- The comma before an item or a member that is not the first one. -/
def comma (first : Bool) : List Char :=
  if first then [] else [',']

namespace Value

variable (spacing : Spacing)

mutual

def write (level : Nat) : Value → List Char
  | .array items => '[' :: writeItems level true items ++ [']']
  | .object members => '\x7b' :: writeMembers level true members ++ ['\x7d']
  | value => value.print

/-- What stands between the start of an array at a level, or an item of it, and its end. -/
def writeItems (level : Nat) (first : Bool) : List Value → List Char
  | [] => if first then [] else spacing.line level
  | item :: items =>
    comma first ++ (spacing.line (level + 1) ++
      (item.write (level + 1) ++ writeItems level false items))

/-- What stands between the start of an object at a level, or a member of it, and its end. -/
def writeMembers (level : Nat) (first : Bool) : List (String × Value) → List Char
  | [] => if first then [] else spacing.line level
  | (name, value) :: members =>
    comma first ++ (spacing.line (level + 1) ++ (quote name ++
      ':' :: (spacing.gap ++ (value.write (level + 1) ++ writeMembers level false members))))

end

end Value

/-! ## Without blanks -/

/-- What stands between an opening brace or a member and the rest of the members. -/
def beforeMembers (first : Bool) (members : List (String × Value)) : List Char :=
  if first ∨ members = [] then Value.printMembers members else ',' :: Value.printMembers members

theorem printMembers_cons (name : String) (value : Value) (members : List (String × Value)) :
    Value.printMembers ((name, value) :: members) =
      quote name ++ ':' :: value.print ++ beforeMembers false members := by
  cases members with
  | nil => simp [Value.printMembers, beforeMembers]
  | cons next members => simp [Value.printMembers, beforeMembers]

theorem beforeMembers_cons (first : Bool) (name : String) (value : Value)
    (members : List (String × Value)) :
    beforeMembers first ((name, value) :: members) =
      comma first ++ (quote name ++ ':' :: (value.print ++ beforeMembers false members)) := by
  cases first with
  | true => simp [beforeMembers, comma, printMembers_cons]
  | false => simp [beforeMembers, comma, printMembers_cons]

/-- What stands between an opening bracket or an item and the rest of the items. -/
def beforeItems (first : Bool) (items : List Value) : List Char :=
  if first ∨ items = [] then Value.printItems items else ',' :: Value.printItems items

theorem printItems_cons (item : Value) (items : List Value) :
    Value.printItems (item :: items) = item.print ++ beforeItems false items := by
  cases items with
  | nil => simp [Value.printItems, beforeItems]
  | cons next items => simp [Value.printItems, beforeItems]

theorem beforeItems_cons (first : Bool) (item : Value) (items : List Value) :
    beforeItems first (item :: items) =
      comma first ++ (item.print ++ beforeItems false items) := by
  cases first with
  | true => simp [beforeItems, comma, printItems_cons]
  | false => simp [beforeItems, comma, printItems_cons]

namespace Value

mutual

/-- Written without blanks, a value is its compact text. -/
theorem write_compact (value : Value) (level : Nat) : value.write .compact level = value.print := by
  cases value with
  | null => rfl
  | boolean truth => rfl
  | number numeral => rfl
  | string text => rfl
  | array items => rw [write, writeItems_compact, beforeItems, if_pos (Or.inl rfl), print]
  | object members =>
      rw [write, writeMembers_compact, beforeMembers, if_pos (Or.inl rfl), print]

theorem writeItems_compact (items : List Value) (level : Nat) (first : Bool) :
    writeItems .compact level first items = beforeItems first items := by
  cases items with
  | nil => cases first <;> rfl
  | cons item items =>
      rw [writeItems, write_compact item, writeItems_compact items, beforeItems_cons]
      rfl

theorem writeMembers_compact (members : List (String × Value)) (level : Nat) (first : Bool) :
    writeMembers .compact level first members = beforeMembers first members := by
  match members with
  | [] => cases first <;> rfl
  | (name, value) :: members =>
      rw [writeMembers, write_compact value, writeMembers_compact members, beforeMembers_cons]
      rfl

end

/-! ## With indentation -/

mutual

/-- Written with indentation, a value is its indented text. -/
theorem write_indented (value : Value) (level : Nat) :
    value.write .indented level = value.printIndented level := by
  cases value with
  | null => rfl
  | boolean truth => rfl
  | number numeral => rfl
  | string text => rfl
  | array items =>
      have inside := writeItems_indented items level true
      cases items with
      | nil => rfl
      | cons item items =>
          rw [write, inside (List.cons_ne_nil item items), printIndented]
          · rfl
          · exact List.cons_ne_nil item items
  | object members =>
      have inside := writeMembers_indented members level true
      cases members with
      | nil => rfl
      | cons member members =>
          rw [write, inside (List.cons_ne_nil member members), printIndented]
          · rfl
          · exact List.cons_ne_nil member members

theorem writeItems_indented (items : List Value) (level : Nat) (first : Bool)
    (filled : items ≠ []) :
    writeItems .indented level first items =
      comma first ++ (printIndentedItems (level + 1) items ++ newLine level) := by
  cases items with
  | nil => exact absurd rfl filled
  | cons item items =>
      have head := write_indented item (level + 1)
      have tail := writeItems_indented items level false
      rw [writeItems, head]
      cases items with
      | nil => simp [printIndentedItems, writeItems, Spacing.indented]
      | cons next items =>
          rw [printIndentedItems, tail (List.cons_ne_nil next items)]
          · simp [comma, Spacing.indented]
          · exact List.cons_ne_nil next items

theorem writeMembers_indented (members : List (String × Value)) (level : Nat) (first : Bool)
    (filled : members ≠ []) :
    writeMembers .indented level first members =
      comma first ++ (printIndentedMembers (level + 1) members ++ newLine level) := by
  match members with
  | [] => exact absurd rfl filled
  | (name, value) :: members =>
      have head := write_indented value (level + 1)
      have tail := writeMembers_indented members level false
      rw [writeMembers, head]
      cases members with
      | nil => simp [printIndentedMembers, writeMembers, Spacing.indented]
      | cons next members =>
          rw [printIndentedMembers, tail (List.cons_ne_nil next members)]
          · simp [comma, Spacing.indented]
          · exact List.cons_ne_nil next members

end

end Value
end Json
end GatewayTelemetry
