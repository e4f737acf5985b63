import GatewayTelemetry.Json.Printer
import GatewayTelemetry.Telemetry.Table

/-!
# Telemetry

Telemetry is a list of named readings. A name stands once, in the place where it was first set,
with the reading that was set last. Two telemetries are equal when they have the same readings
under the same names; the order does not count.
-/

namespace GatewayTelemetry

/-- What is reported under a name: a text, or that nothing is defined. -/
inductive Reading where
  | text (value : String)
  | undefined
  deriving DecidableEq, Inhabited

namespace Reading

def text? : Reading → Option String
  | .text value => some value
  | .undefined => none

def ofLabel : Label → Reading
  | .known label => .text label
  | .undefined => .undefined

def ofText? : Option String → Reading
  | some value => .text value
  | none => .undefined

end Reading

namespace Fields

/-- Set the reading of a name, in its place if the name is there and at the end otherwise. -/
def set (name : String) (reading : Reading) : List (String × Reading) → List (String × Reading)
  | [] => [(name, reading)]
  | (other, old) :: rest =>
    if other = name then (name, reading) :: rest else (other, old) :: set name reading rest

theorem names_set (name : String) (reading : Reading) (fields : List (String × Reading)) :
    (set name reading fields).map Prod.fst =
      if name ∈ fields.map Prod.fst then fields.map Prod.fst
      else fields.map Prod.fst ++ [name] := by
  induction fields with
  | nil => simp [set]
  | cons field rest ih =>
    obtain ⟨other, old⟩ := field
    by_cases same : other = name
    · simp [set, same]
    · have different : ¬ name = other := fun h => same h.symm
      simp only [set, same, if_false, List.map_cons, ih, List.mem_cons, different, false_or]
      split <;> simp

theorem nodup_names_set (name : String) (reading : Reading) {fields : List (String × Reading)}
    (distinct : (fields.map Prod.fst).Nodup) :
    ((set name reading fields).map Prod.fst).Nodup := by
  rw [names_set]
  split
  · exact distinct
  · next absent =>
    refine List.nodup_append.mpr ⟨distinct, by simp, ?_⟩
    intro other present last same
    simp only [List.mem_singleton] at same
    exact fun equal => absent (same ▸ equal ▸ present)

theorem lookup_set_self (name : String) (reading : Reading) (fields : List (String × Reading)) :
    (set name reading fields).lookup name = some reading := by
  induction fields with
  | nil => simp [set]
  | cons field rest ih =>
    obtain ⟨other, old⟩ := field
    by_cases same : other = name
    · simp [set, same]
    · have unequal : (name == other) = false := by simpa using fun h : name = other => same h.symm
      simpa [set, same, List.lookup_cons, unequal] using ih

theorem lookup_set_of_ne {name other : String} (different : other ≠ name) (reading : Reading)
    (fields : List (String × Reading)) :
    (set name reading fields).lookup other = fields.lookup other := by
  have unequal : (other == name) = false := by simpa using different
  induction fields with
  | nil => simp [set, List.lookup_cons, unequal]
  | cons field rest ih =>
    obtain ⟨first, old⟩ := field
    by_cases same : first = name
    · simp [set, same, List.lookup_cons, unequal]
    · simp [set, same, List.lookup_cons, ih]

end Fields

/-- Named readings in the order in which their names were first set. -/
structure Telemetry where
  fields : List (String × Reading)
  distinct : (fields.map Prod.fst).Nodup

namespace Telemetry

def empty : Telemetry :=
  ⟨[], List.nodup_nil⟩

instance : Inhabited Telemetry := ⟨empty⟩

def insert (telemetry : Telemetry) (name : String) (reading : Reading) : Telemetry :=
  { fields := Fields.set name reading telemetry.fields
    distinct := Fields.nodup_names_set name reading telemetry.distinct }

def ofList (entries : List (String × Reading)) : Telemetry :=
  entries.foldl (fun telemetry entry => telemetry.insert entry.1 entry.2) empty

def get? (telemetry : Telemetry) (name : String) : Option Reading :=
  telemetry.fields.lookup name

/-- The text of a name, if the name was set to a defined reading. -/
def text? (telemetry : Telemetry) (name : String) : Option String :=
  (telemetry.get? name).bind Reading.text?

@[simp]
theorem get?_empty (name : String) : empty.get? name = none :=
  rfl

@[simp]
theorem get?_insert_self (telemetry : Telemetry) (name : String) (reading : Reading) :
    (telemetry.insert name reading).get? name = some reading :=
  Fields.lookup_set_self name reading telemetry.fields

theorem get?_insert_of_ne (telemetry : Telemetry) {name other : String}
    (different : other ≠ name) (reading : Reading) :
    (telemetry.insert name reading).get? other = telemetry.get? other :=
  Fields.lookup_set_of_ne different reading telemetry.fields

theorem names_insert (telemetry : Telemetry) (name : String) (reading : Reading) :
    (telemetry.insert name reading).fields.map Prod.fst =
      if name ∈ telemetry.fields.map Prod.fst then telemetry.fields.map Prod.fst
      else telemetry.fields.map Prod.fst ++ [name] :=
  Fields.names_set name reading telemetry.fields

def size (telemetry : Telemetry) : Nat :=
  telemetry.fields.length

def isEmpty (telemetry : Telemetry) : Bool :=
  telemetry.fields.isEmpty

def defined (telemetry : Telemetry) : List (String × String) :=
  telemetry.fields.filterMap fun field => field.2.text?.map (field.1, ·)

def toJson (telemetry : Telemetry) : Json.Value :=
  .object (telemetry.defined.map fun field => (field.1, .string field.2))

/-- Telemetries are equal when they have the same names with the same readings. -/
instance : BEq Telemetry where
  beq left right :=
    left.size == right.size && left.fields.all fun field => right.get? field.1 == some field.2

end Telemetry
end GatewayTelemetry
