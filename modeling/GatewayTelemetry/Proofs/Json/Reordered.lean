import Mathlib.Data.List.Forall2
import Mathlib.Data.List.Induction
import GatewayTelemetry.Proofs.Json.Normal

/-!
# Objects are read up to the order of their members

If no object in a value has two members of one name, then normalizing the value only puts members
into another order: the order of their names. So looking up a member comes to the same, and what a
document spells out is what is read from it.
-/

namespace GatewayTelemetry
namespace Json

namespace Members

variable {α : Type}

/-! ## Setting members -/

theorem mem_of_mem_insert {name : String} {value : α} {members : Members α} {member : String × α}
    (present : member ∈ insert name value members) :
    member = (name, value) ∨ member ∈ members := by
  fun_induction insert name value members with
  | case1 => exact .inl (List.mem_singleton.mp present)
  | case2 old rest => exact (List.mem_cons.mp present).imp_right (List.mem_cons_of_mem _)
  | case3 other old rest different before => exact List.mem_cons.mp present
  | case4 other old rest different notBefore ih =>
      rcases List.mem_cons.mp present with rfl | later
      · exact .inr List.mem_cons_self
      · exact (ih later).imp_right (List.mem_cons_of_mem _)

theorem IsSorted.insert {members : Members α} (sorted : IsSorted members) (name : String)
    (value : α) : IsSorted (insert name value members) := by
  fun_induction Members.insert name value members with
  | case1 => exact isSorted_singleton _
  | case2 old rest => exact sorted
  | case3 other old rest different before =>
      obtain ⟨ahead, -⟩ := List.pairwise_cons.mp sorted
      refine List.pairwise_cons.mpr ⟨fun later present => ?_, sorted⟩
      rcases List.mem_cons.mp present with rfl | further
      · exact before
      · exact String.lt_trans before (ahead later further)
  | case4 other old rest different notBefore ih =>
      obtain ⟨ahead, restSorted⟩ := List.pairwise_cons.mp sorted
      have behind : other < name :=
        Std.lt_of_le_of_ne (String.not_lt.mp notBefore) (Ne.symm different)
      refine List.pairwise_cons.mpr ⟨fun later present => ?_, ih restSorted⟩
      obtain ⟨member, among, rfl⟩ := List.mem_map.mp present
      rcases mem_of_mem_insert among with rfl | further
      · exact behind
      · exact ahead member.1 (List.mem_map_of_mem further)

theorem isSorted_ofList (entries : List (String × α)) : IsSorted (ofList entries) :=
  List.foldlRecOn entries _ isSorted_nil fun _ sorted entry _ => sorted.insert entry.1 entry.2

theorem mem_of_mem_foldl_insert {members entries : Members α} {member : String × α}
    (present : member ∈
      entries.foldl (fun members entry => insert entry.1 entry.2 members) members) :
    member ∈ members ∨ member ∈ entries := by
  induction entries generalizing members with
  | nil => exact .inl present
  | cons entry entries ih =>
      rcases ih present with inserted | later
      · rcases mem_of_mem_insert inserted with rfl | before
        · exact .inr List.mem_cons_self
        · exact .inl before
      · exact .inr (List.mem_cons_of_mem entry later)

theorem mem_of_mem_ofList {entries : List (String × α)} {member : String × α}
    (present : member ∈ ofList entries) : member ∈ entries :=
  (mem_of_mem_foldl_insert present).resolve_left List.not_mem_nil

/-! ## Different names -/

theorem insert_perm {name : String} (value : α) {members : Members α}
    (absent : name ∉ members.map Prod.fst) :
    (insert name value members).Perm ((name, value) :: members) := by
  induction members with
  | nil => exact .refl _
  | cons member members ih =>
      obtain ⟨first, old⟩ := member
      rw [List.map_cons, List.mem_cons, not_or] at absent
      rw [insert, if_neg absent.1]
      split
      · exact .refl _
      · exact ((ih absent.2).cons _).trans (.swap _ _ _)

theorem foldl_insert_perm {members entries : Members α}
    (distinct : ((members ++ entries).map Prod.fst).Nodup) :
    (entries.foldl (fun members entry => insert entry.1 entry.2 members) members).Perm
      (members ++ entries) := by
  induction entries generalizing members with
  | nil => rw [List.foldl_nil, List.append_nil]
  | cons entry entries ih =>
      have absent : entry.1 ∉ members.map Prod.fst := by
        rw [List.map_append, List.nodup_append] at distinct
        exact fun present => distinct.2.2 _ present _ (by simp) rfl
      have added : (insert entry.1 entry.2 members ++ entries).Perm
          (members ++ entry :: entries) :=
        ((insert_perm entry.2 absent).append_right entries).trans List.perm_middle.symm
      rw [List.foldl_cons]
      exact (ih ((added.map Prod.fst).nodup_iff.mpr distinct)).trans added

/-- Members with different names are only put into the order of their names. -/
theorem ofList_perm {entries : List (String × α)} (distinct : (entries.map Prod.fst).Nodup) :
    (ofList entries).Perm entries :=
  foldl_insert_perm (show (([] ++ entries).map Prod.fst).Nodup from distinct)

/-! ## Looking up -/

theorem lookup_eq_some_iff_mem {members : Members α} (distinct : (members.map Prod.fst).Nodup)
    {name : String} {value : α} : members.lookup name = some value ↔ (name, value) ∈ members := by
  constructor
  · intro found
    obtain ⟨front, back, rfl, -⟩ := List.lookup_eq_some_iff.mp found
    exact List.mem_append_right front List.mem_cons_self
  · intro present
    obtain ⟨front, back, rfl⟩ := List.append_of_mem present
    refine List.lookup_eq_some_iff.mpr ⟨front, back, rfl, fun other among => ?_⟩
    rw [List.map_append, List.nodup_append] at distinct
    have different := distinct.2.2 other.1 (List.mem_map_of_mem among) name (by simp)
    simpa using Ne.symm different

theorem lookup_map {β : Type} (f : α → β) (members : Members α) (name : String) :
    (members.map fun member => (member.1, f member.2)).lookup name =
      (members.lookup name).map f := by
  induction members with
  | nil => rfl
  | cons member members ih =>
      rw [List.map_cons, List.lookup_cons, List.lookup_cons, ih]
      cases name == member.1 <;> rfl

theorem lookup_eq_of_perm {members others : Members α}
    (distinct : (members.map Prod.fst).Nodup) (perm : members.Perm others) (name : String) :
    members.lookup name = others.lookup name := by
  have othersDistinct := (perm.map Prod.fst).nodup_iff.mp distinct
  refine Option.ext fun value => ?_
  rw [lookup_eq_some_iff_mem distinct, lookup_eq_some_iff_mem othersDistinct, perm.mem_iff]

/-- Of several entries with one name the last one counts, the first one from the end. -/
theorem lookup_ofList_eq_reverse (entries : List (String × α)) (name : String) :
    (ofList entries).lookup name = entries.reverse.lookup name := by
  induction entries using List.reverseRecOn with
  | nil => rfl
  | append_singleton entries entry ih =>
      rw [ofList, List.foldl_concat, List.reverse_concat, List.lookup_cons]
      by_cases same : name = entry.1
      · rw [same, lookup_insert_self, beq_self_eq_true]
      · rw [lookup_insert_of_ne same, beq_false_of_ne same]
        exact ih

/-- Putting members with different names into order changes no look-up. -/
theorem lookup_ofList {entries : List (String × α)} (distinct : (entries.map Prod.fst).Nodup)
    (name : String) : (ofList entries).lookup name = entries.lookup name :=
  (lookup_eq_of_perm distinct (ofList_perm distinct).symm name).symm

end Members

namespace Value

mutual

def HasDistinctNames : Value → Prop
  | .array items => ItemsHaveDistinctNames items
  | .object members => (members.map Prod.fst).Nodup ∧ MembersHaveDistinctNames members
  | _ => True

def ItemsHaveDistinctNames : List Value → Prop
  | [] => True
  | item :: items => item.HasDistinctNames ∧ ItemsHaveDistinctNames items

def MembersHaveDistinctNames : List (String × Value) → Prop
  | [] => True
  | (_, value) :: members => value.HasDistinctNames ∧ MembersHaveDistinctNames members

end

theorem membersHaveDistinctNames_iff {members : List (String × Value)} :
    MembersHaveDistinctNames members ↔ ∀ member ∈ members, member.2.HasDistinctNames := by
  induction members with
  | nil => simp [MembersHaveDistinctNames]
  | cons member members ih => rw [List.forall_mem_cons, MembersHaveDistinctNames, ih]

mutual

/-- The same value, with the members of its objects in some order. -/
inductive Reordered : Value → Value → Prop
  | null : Reordered .null .null
  | boolean (truth : Bool) : Reordered (.boolean truth) (.boolean truth)
  | number (numeral : Number) : Reordered (.number numeral) (.number numeral)
  | string (text : String) : Reordered (.string text) (.string text)
  | array {items others : List Value} (same : List.Forall₂ Reordered items others) :
      Reordered (.array items) (.array others)
  | object {members middle others : List (String × Value)}
      (same : List.Forall₂ ReorderedMember members middle) (perm : middle.Perm others) :
      Reordered (.object members) (.object others)

/-- A member of the same name, with the members of objects in its value in some order. -/
inductive ReorderedMember : String × Value → String × Value → Prop
  | member (name : String) {value other : Value} (same : Reordered value other) :
      ReorderedMember (name, value) (name, other)

end

/-! ## Normal forms -/

theorem normalizeMembers_eq_map (members : List (String × Value)) :
    normalizeMembers members = members.map fun member => (member.1, member.2.normalize) := by
  induction members with
  | nil => rfl
  | cons member members ih => rw [normalizeMembers, List.map_cons, ih]

theorem names_normalizeMembers (members : List (String × Value)) :
    (normalizeMembers members).map Prod.fst = members.map Prod.fst := by
  rw [normalizeMembers_eq_map, List.map_map]
  rfl

theorem lookup_normalizeMembers (members : List (String × Value)) (name : String) :
    (normalizeMembers members).lookup name = (members.lookup name).map normalize := by
  rw [normalizeMembers_eq_map, Members.lookup_map]

/-- In the normal form of an object with different names, a member is found under the same name. -/
theorem member?_normalize {members : List (String × Value)}
    (distinct : (members.map Prod.fst).Nodup) (name : String) :
    (normalize (.object members)).member? name =
      ((Value.object members).member? name).map normalize := by
  rw [← names_normalizeMembers] at distinct
  rw [normalize, member?, Members.lookup_ofList distinct, lookup_normalizeMembers, member?]

theorem membersAreNormal_iff {members : List (String × Value)} :
    MembersAreNormal members ↔ ∀ member ∈ members, member.2.IsNormal := by
  induction members with
  | nil => simp [MembersAreNormal]
  | cons member members ih => rw [List.forall_mem_cons, MembersAreNormal, ih]

mutual

theorem isNormal_normalize (value : Value) : value.normalize.IsNormal := by
  cases value with
  | null => trivial
  | boolean truth => trivial
  | number numeral => trivial
  | string text => trivial
  | array items => exact areNormal_normalizeItems items
  | object members =>
      refine ⟨Members.isSorted_ofList _, membersAreNormal_iff.mpr fun member present => ?_⟩
      exact membersAreNormal_iff.mp (areNormal_normalizeMembers members) member
        (Members.mem_of_mem_ofList present)

theorem areNormal_normalizeItems (items : List Value) :
    ItemsAreNormal (normalizeItems items) := by
  cases items with
  | nil => trivial
  | cons item items => exact ⟨isNormal_normalize item, areNormal_normalizeItems items⟩

theorem areNormal_normalizeMembers (members : List (String × Value)) :
    MembersAreNormal (normalizeMembers members) := by
  match members with
  | [] => trivial
  | (name, value) :: members =>
      exact ⟨isNormal_normalize value, areNormal_normalizeMembers members⟩

end

mutual

theorem hasIntegers_normalize (value : Value) (integers : value.HasIntegers) :
    value.normalize.HasIntegers := by
  cases value with
  | null => trivial
  | boolean truth => trivial
  | number numeral => exact integers
  | string text => trivial
  | array items => exact itemsHaveIntegers_normalizeItems items integers
  | object members =>
      refine membersHaveIntegers_iff.mpr fun member present => ?_
      exact membersHaveIntegers_iff.mp (membersHaveIntegers_normalizeMembers members integers)
        member (Members.mem_of_mem_ofList present)

theorem itemsHaveIntegers_normalizeItems (items : List Value)
    (integers : ItemsHaveIntegers items) : ItemsHaveIntegers (normalizeItems items) := by
  cases items with
  | nil => trivial
  | cons item items =>
      exact ⟨hasIntegers_normalize item integers.1,
        itemsHaveIntegers_normalizeItems items integers.2⟩

theorem membersHaveIntegers_normalizeMembers (members : List (String × Value))
    (integers : MembersHaveIntegers members) : MembersHaveIntegers (normalizeMembers members) := by
  match members with
  | [] => trivial
  | (name, value) :: members =>
      exact ⟨hasIntegers_normalize value integers.1,
        membersHaveIntegers_normalizeMembers members integers.2⟩

end

mutual

/-- Normalizing takes members away or none, so arrays and objects do not nest deeper. -/
theorem nesting_normalize_le (value : Value) : value.normalize.nesting ≤ value.nesting := by
  cases value with
  | null => exact Nat.le_refl 0
  | boolean truth => exact Nat.le_refl 0
  | number numeral => exact Nat.le_refl 0
  | string text => exact Nat.le_refl 0
  | array items => exact Nat.succ_le_succ (itemsNesting_normalizeItems_le items)
  | object members =>
      refine Nat.succ_le_succ (membersNesting_le_iff.mpr fun member present => ?_)
      exact membersNesting_le_iff.mp (membersNesting_normalizeMembers_le members) member
        (Members.mem_of_mem_ofList present)

theorem itemsNesting_normalizeItems_le (items : List Value) :
    itemsNesting (normalizeItems items) ≤ itemsNesting items := by
  cases items with
  | nil => exact Nat.le_refl 0
  | cons item items =>
      have head := nesting_normalize_le item
      have tail := itemsNesting_normalizeItems_le items
      rw [normalizeItems, itemsNesting, itemsNesting]
      omega

theorem membersNesting_normalizeMembers_le (members : List (String × Value)) :
    membersNesting (normalizeMembers members) ≤ membersNesting members := by
  match members with
  | [] => exact Nat.le_refl 0
  | (name, value) :: members =>
      have head := nesting_normalize_le value
      have tail := membersNesting_normalizeMembers_le members
      rw [normalizeMembers, membersNesting, membersNesting]
      omega

end

mutual

/-- If names are different, normalizing only puts members into another order. -/
theorem reordered_normalize (value : Value) (distinct : value.HasDistinctNames) :
    value.Reordered value.normalize := by
  cases value with
  | null => exact .null
  | boolean truth => exact .boolean truth
  | number numeral => exact .number numeral
  | string text => exact .string text
  | array items => exact .array (reordered_normalizeItems items distinct)
  | object members =>
      have names := distinct.1
      rw [← names_normalizeMembers] at names
      exact .object (reordered_normalizeMembers members distinct.2)
        (Members.ofList_perm names).symm

theorem reordered_normalizeItems (items : List Value)
    (distinct : ItemsHaveDistinctNames items) :
    List.Forall₂ Reordered items (normalizeItems items) := by
  cases items with
  | nil => exact .nil
  | cons item items =>
      exact .cons (reordered_normalize item distinct.1) (reordered_normalizeItems items distinct.2)

theorem reordered_normalizeMembers (members : List (String × Value))
    (distinct : MembersHaveDistinctNames members) :
    List.Forall₂ ReorderedMember members (normalizeMembers members) := by
  match members with
  | [] => exact .nil
  | (name, value) :: members =>
      exact .cons (.member name (reordered_normalize value distinct.1))
        (reordered_normalizeMembers members distinct.2)

end

end Value
end Json
end GatewayTelemetry
