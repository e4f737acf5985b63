import Mathlib.Data.Finset.Card
import Mathlib.Data.List.Perm.Subperm
import GatewayTelemetry.Proofs.Record.Lossless
import GatewayTelemetry.Proofs.Telemetry.InsertionOrder

/-!
# Telemetry is a map that keeps an order

Setting readings one after the other leaves a map from names to readings. The order of the fields
is that of the first reading under each name. It shows where fields are listed or written, and
it does not count where two telemetries are compared.
-/

namespace GatewayTelemetry
namespace Telemetry

/-! ## Names and readings -/

section

variable {entries : List (String × Reading)} {name : String}

theorem mem_names_ofList :
    name ∈ (ofList entries).fields.map Prod.fst ↔ name ∈ entries.map Prod.fst := by
  rw [names_ofList]
  exact List.mem_eraseDups

theorem size_ofList (entries : List (String × Reading)) :
    (ofList entries).size = (entries.map Prod.fst).toFinset.card := by
  have same : (entries.map Prod.fst).toFinset =
      ((ofList entries).fields.map Prod.fst).toFinset := by
    ext name
    rw [List.mem_toFinset, List.mem_toFinset, mem_names_ofList]
  rw [same, List.toFinset_card_of_nodup (ofList entries).distinct, List.length_map, size]

theorem get?_ofList_eq_none_iff :
    (ofList entries).get? name = none ↔ name ∉ entries.map Prod.fst := by
  rw [← mem_names_ofList, get?, List.lookup_eq_none_iff]
  simp only [bne_iff_ne, List.mem_map, not_exists, not_and]
  exact ⟨fun other field among same => other field among same.symm,
    fun other field among same => other field among same.symm⟩

theorem get?_ofList_eq_some_iff {reading : Reading} :
    (ofList entries).get? name = some reading ↔ IsLast entries name reading := by
  rw [get?_ofList]
  exact lookup_reverse_eq_some_iff

theorem text?_ofList_eq_some_iff {text : String} :
    (ofList entries).text? name = some text ↔ IsLast entries name (.text text) := by
  rw [← get?_ofList_eq_some_iff, text?, Option.bind_eq_some_iff]
  simp only [Reading.text?_eq_some_iff, exists_eq_right]

end

/-! ## Written fields -/

def writtenField (field : String × String) : List Char :=
  Json.quote field.1 ++ ':' :: Json.quote field.2

theorem printMembers_texts (shown : List (String × String)) :
    Json.Value.printMembers (shown.map fun field => (field.1, .string field.2)) =
      [','].intercalate (shown.map writtenField) := by
  induction shown with
  | nil => rfl
  | cons field shown ih =>
      cases shown with
      | nil => simp [Json.Value.printMembers, Json.Value.print, writtenField]
      | cons next shown =>
          rw [List.map_cons, List.map_cons, Json.Value.printMembers]
          · rw [List.map_cons] at ih
            rw [ih]
            simp [Json.Value.print, writtenField, List.intercalate_cons_cons]
          · simp

theorem map_defined (telemetry : Telemetry) :
    telemetry.defined.map (fun field => (field.1, Reading.text field.2)) =
      telemetry.fields.filter fun field => field.2 ≠ .undefined := by
  rw [defined]
  induction telemetry.fields with
  | nil => rfl
  | cons field fields ih =>
      obtain ⟨name, reading⟩ := field
      cases reading with
      | text value => simpa [Reading.text?] using ih
      | undefined => simpa [Reading.text?] using ih

/-! ## Comparing -/

/-- Telemetries are equal if they have the same fields in some order. -/
theorem beq_iff_perm {telemetry other : Telemetry} :
    (telemetry == other) = true ↔ telemetry.fields.Perm other.fields := by
  have fields : (telemetry == other) = true ↔
      telemetry.size = other.size ∧ ∀ field ∈ telemetry.fields, field ∈ other.fields := by
    change (telemetry.size == other.size && telemetry.fields.all _) = true ↔ _
    simp only [Bool.and_eq_true, beq_iff_eq, List.all_eq_true, get?]
    simp only [Json.Members.lookup_eq_some_iff_mem other.distinct]
  rw [fields]
  constructor
  · rintro ⟨sizes, inside⟩
    have among : telemetry.fields.Subperm other.fields :=
      List.subperm_of_subset telemetry.distinct.of_map inside
    exact among.perm_of_length_le (Nat.le_of_eq sizes.symm)
  · intro perm
    exact ⟨perm.length_eq, fun field among => perm.subset among⟩

/-- Telemetries are equal if every name has the same reading in both, or none in either. -/
theorem beq_iff_get? {telemetry other : Telemetry} :
    (telemetry == other) = true ↔ ∀ name, telemetry.get? name = other.get? name := by
  rw [beq_iff_perm]
  constructor
  · intro perm name
    exact Json.Members.lookup_eq_of_perm telemetry.distinct perm name
  · intro same
    rw [List.perm_ext_iff_of_nodup telemetry.distinct.of_map other.distinct.of_map]
    rintro ⟨name, reading⟩
    rw [← Json.Members.lookup_eq_some_iff_mem telemetry.distinct,
      ← Json.Members.lookup_eq_some_iff_mem other.distinct]
    exact iff_of_eq (congrArg (· = some reading) (same name))

/-- Of two readings under different names, either may be set first. -/
theorem get?_ofList_swap (front back : List (String × Reading)) {first second : String × Reading}
    (different : first.1 ≠ second.1) (name : String) :
    (ofList (front ++ first :: second :: back)).get? name =
      (ofList (front ++ second :: first :: back)).get? name := by
  have pair : [second, first].lookup name = [first, second].lookup name :=
    Json.Members.lookup_eq_of_perm (by simpa using different.symm) (.swap first second []) name
  have apart : ∀ one other : String × Reading,
      (ofList (front ++ one :: other :: back)).get? name =
        ((back.reverse.lookup name).or ([other, one].lookup name)).or
          (front.reverse.lookup name) := by
    intro one other
    rw [get?_ofList, ← List.lookup_append, ← List.lookup_append]
    simp
  rw [apart first second, apart second first, pair]

/-! ## Sequences of readings -/

/-- Telemetry is what readings leave that are set one after the other. -/
structure IsLeftBy (entries : List (String × Reading)) (telemetry : Telemetry) : Prop where
  /-- Names are listed once, in the order in which they were first set. -/
  names : telemetry.fields.map Prod.fst = (entries.map Prod.fst).eraseDups
  fields : ∀ name reading, (name, reading) ∈ telemetry.fields ↔ IsLast entries name reading
  size : telemetry.size = (entries.map Prod.fst).toFinset.card
  absent : ∀ name, telemetry.get? name = none ↔ name ∉ entries.map Prod.fst
  found : ∀ name reading, telemetry.get? name = some reading ↔ IsLast entries name reading
  text : ∀ name text, telemetry.text? name = some text ↔ IsLast entries name (.text text)
  /-- What is written are the defined fields, in the order in which they are listed. -/
  written : ∃ shown : List (String × String), telemetry.toJson.print =
      '\x7b' :: [','].intercalate (shown.map writtenField) ++ ['\x7d'] ∧
    shown.map (fun field => (field.1, Reading.text field.2)) =
      telemetry.fields.filter fun field => field.2 ≠ .undefined

theorem isLeftBy_ofList (entries : List (String × Reading)) :
    IsLeftBy entries (ofList entries) where
  names := names_ofList entries
  fields _ _ := mem_fields_ofList_iff
  size := size_ofList entries
  absent _ := get?_ofList_eq_none_iff
  found _ _ := get?_ofList_eq_some_iff
  text _ _ := text?_ofList_eq_some_iff
  written := by
    refine ⟨(ofList entries).defined, ?_, map_defined _⟩
    rw [toJson, Json.Value.print, printMembers_texts]

/-- Readings that are set one after the other leave a map, which lists and writes its fields in the
order in which their names were first set. Two such maps are equal if they have the same reading
under each name, whatever the order. So it makes no difference to any comparison which of two
readings under different names is set first. -/
theorem ofList_insertionOrdered :
    (∀ entries, IsLeftBy entries (ofList entries)) ∧
      (∀ entries others, (ofList entries == ofList others) = true ↔
        ∀ name, (ofList entries).get? name = (ofList others).get? name) ∧
      ∀ front back (first second : String × Reading), first.1 ≠ second.1 →
        (ofList (front ++ first :: second :: back) ==
            ofList (front ++ second :: first :: back)) = true ∧
          ∀ other : Telemetry, (ofList (front ++ first :: second :: back) == other) =
            (ofList (front ++ second :: first :: back) == other) := by
  refine ⟨isLeftBy_ofList, fun entries others => beq_iff_get?, ?_⟩
  intro front back first second different
  have swapped := get?_ofList_swap front back different
  refine ⟨beq_iff_get?.mpr swapped, fun other => ?_⟩
  rw [Bool.eq_iff_iff, beq_iff_get?, beq_iff_get?]
  simp only [swapped]

/-- The second reading of the temperature takes the place of the first; the other order of the first
two readings leaves an equal telemetry whose fields are listed in another order. -/
theorem ofList_insertionOrdered_temperatures :
    let entries := [("温度", .text "21"), ("undefined", .undefined), ("温度", .text "22")]
    let swapped := [("undefined", .undefined), ("温度", .text "21"), ("温度", .text "22")]
    (("温度", Reading.text "21").1 ≠ ("undefined", Reading.undefined).1 ∧
        (ofList entries == ofList swapped) = true) ∧
      (ofList entries).fields.map Prod.fst = ["温度", "undefined"] ∧
      (ofList swapped).fields.map Prod.fst = ["undefined", "温度"] ∧
      (ofList entries).size = 2 ∧ (ofList entries).text? "温度" = some "22" := by
  intro entries swapped
  have different : ("温度", Reading.text "21").1 ≠ ("undefined", Reading.undefined).1 := by decide
  obtain ⟨left, -, swap⟩ := ofList_insertionOrdered
  refine ⟨⟨different, (swap [] [("温度", .text "22")] _ _ different).1⟩,
    (left entries).names.trans (by decide), (left swapped).names.trans (by decide),
    (left entries).size.trans (by decide), ((left entries).text "温度" "22").mpr ?_⟩
  exact ⟨[("温度", .text "21"), ("undefined", .undefined)], [], rfl, List.not_mem_nil⟩

end Telemetry
end GatewayTelemetry
