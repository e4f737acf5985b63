import Mathlib.Data.List.Induction
import GatewayTelemetry.Proofs.Json.Reordered
import GatewayTelemetry.Telemetry.Basic

/-!
# Names in the order of their first entries

Readings that are set one after the other leave each name once: in the place of the first entry with
the name, and with the reading of the last one.
-/

namespace GatewayTelemetry
namespace Telemetry

/-- The last of the entries with a name has this reading. -/
def IsLast (entries : List (String × Reading)) (name : String) (reading : Reading) : Prop :=
  ∃ earlier later, entries = earlier ++ (name, reading) :: later ∧ name ∉ later.map Prod.fst

variable {entries : List (String × Reading)} {name : String} {reading : Reading}

theorem IsLast.mem (isLast : IsLast entries name reading) : (name, reading) ∈ entries := by
  obtain ⟨earlier, later, rfl, -⟩ := isLast
  exact List.mem_append_right earlier List.mem_cons_self

/-- The last entry with a name is the first one from the end. -/
theorem lookup_reverse_eq_some_iff :
    entries.reverse.lookup name = some reading ↔ IsLast entries name reading := by
  rw [List.lookup_eq_some_iff]
  constructor
  · rintro ⟨later, earlier, split, absent⟩
    refine ⟨earlier.reverse, later.reverse, ?_, ?_⟩
    · simpa using congrArg List.reverse split
    · intro among
      obtain ⟨entry, present, same⟩ := List.mem_map.mp among
      simpa [same] using absent entry (List.mem_reverse.mp present)
  · rintro ⟨earlier, later, rfl, absent⟩
    refine ⟨later.reverse, earlier.reverse, by simp, fun entry among => ?_⟩
    have present : entry.1 ∈ later.map Prod.fst := List.mem_map_of_mem (List.mem_reverse.mp among)
    simpa using fun same : name = entry.1 => absent (same ▸ present)

theorem isLast_filter_iff {α : Type} {items : List α} {entry : α → String × Reading}
    {keeps : α → Bool} (kept : ∀ item ∈ items, (entry item).1 = name → keeps item = true) :
    IsLast ((items.filter keeps).map entry) name reading ↔
      IsLast (items.map entry) name reading := by
  have fewer (items : List α) (kept : ∀ item ∈ items, (entry item).1 = name → keeps item = true) :
      ((items.filter keeps).map entry).lookup name = (items.map entry).lookup name := by
    induction items with
    | nil => rfl
    | cons item items ih =>
        have rest := ih fun other among => kept other (List.mem_cons_of_mem item among)
        by_cases keep : keeps item = true
        · rw [List.filter_cons_of_pos keep, List.map_cons, List.map_cons, List.lookup_cons,
            List.lookup_cons, rest]
        · have unequal : (name == (entry item).1) = false := by
            simpa using fun same : name = (entry item).1 =>
              keep (kept item List.mem_cons_self same.symm)
          rw [List.filter_cons_of_neg keep, rest, List.map_cons, List.lookup_cons, unequal]
  rw [← lookup_reverse_eq_some_iff, ← lookup_reverse_eq_some_iff, ← List.map_reverse,
    ← List.map_reverse, ← List.filter_reverse,
    fewer items.reverse fun item among => kept item (List.mem_reverse.mp among)]

theorem ofList_append_singleton (entries : List (String × Reading)) (entry : String × Reading) :
    ofList (entries ++ [entry]) = (ofList entries).insert entry.1 entry.2 :=
  List.foldl_concat ..

/-- A name has the reading that it was set to last. -/
theorem get?_ofList (entries : List (String × Reading)) (name : String) :
    (ofList entries).get? name = entries.reverse.lookup name := by
  induction entries using List.reverseRecOn with
  | nil => rfl
  | append_singleton entries entry ih =>
      rw [ofList_append_singleton, List.reverse_concat]
      by_cases same : entry.1 = name
      · rw [← same, get?_insert_self, List.lookup_cons_self]
      · have unequal : (name == entry.1) = false := by simpa using Ne.symm same
        rw [get?_insert_of_ne _ (Ne.symm same), ih, List.lookup_cons, unequal]

/-- A field holds the reading that its name was set to last. -/
theorem mem_fields_ofList_iff :
    (name, reading) ∈ (ofList entries).fields ↔ IsLast entries name reading := by
  rw [← lookup_reverse_eq_some_iff, ← get?_ofList]
  exact (Json.Members.lookup_eq_some_iff_mem (ofList entries).distinct).symm

/-- Names stand in the order in which they were first set. -/
theorem names_ofList (entries : List (String × Reading)) :
    (ofList entries).fields.map Prod.fst = (entries.map Prod.fst).eraseDups := by
  induction entries using List.reverseRecOn with
  | nil => rfl
  | append_singleton entries entry ih =>
      rw [ofList_append_singleton, names_insert, ih, List.map_append, List.map_singleton,
        List.eraseDups_append, List.removeAll]
      by_cases known : entry.1 ∈ entries.map Prod.fst
      · rw [if_pos (List.mem_eraseDups.mpr known), List.filter_cons_of_neg (by simpa using known)]
        exact (List.append_nil _).symm
      · rw [if_neg fun among => known (List.mem_eraseDups.mp among),
          List.filter_cons_of_pos (by simpa using known)]
        rfl

end Telemetry
end GatewayTelemetry
