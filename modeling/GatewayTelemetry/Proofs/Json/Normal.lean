import GatewayTelemetry.Proofs.Json.RoundTrip

/-!
# Values in normal form

A value is in normal form if the members of every object in it have different names and stand in
the order of their names. Normalizing changes no such value, so a document that is the compact
text of one is parsed to exactly that value.
-/

namespace GatewayTelemetry
namespace Json

namespace Members

variable {α : Type}

/-- Different names stand in ascending order. -/
def IsSorted (members : Members α) : Prop :=
  (members.map Prod.fst).Pairwise (· < ·)

theorem isSorted_nil : IsSorted ([] : Members α) :=
  List.Pairwise.nil

theorem isSorted_singleton (member : String × α) : IsSorted [member] :=
  List.pairwise_singleton _ _

/-- A name after all others is set at the end. -/
theorem insert_of_forall_lt {name : String} (value : α) {members : Members α}
    (last : ∀ member ∈ members, member.1 < name) :
    insert name value members = members ++ [(name, value)] := by
  induction members with
  | nil => rfl
  | cons member members ih =>
      obtain ⟨other, old⟩ := member
      have before : other < name := last _ List.mem_cons_self
      have different : name ≠ other := fun same => String.lt_irrefl other (same ▸ before)
      rw [insert, if_neg different, if_neg (String.lt_asymm before),
        ih fun member present => last member (List.mem_cons_of_mem _ present)]
      rfl

/-- Members set one after the other in the order of their names stay as they are. -/
theorem foldl_insert_of_isSorted {front members : Members α}
    (sorted : IsSorted (front ++ members)) :
    members.foldl (fun members entry => insert entry.1 entry.2 members) front =
      front ++ members := by
  induction members generalizing front with
  | nil => simp
  | cons member members ih =>
      have last : ∀ earlier ∈ front, earlier.1 < member.1 := by
        intro earlier present
        rw [IsSorted, List.map_append, List.pairwise_append] at sorted
        exact sorted.2.2 _ (List.mem_map_of_mem present) _ (by simp)
      rw [List.foldl_cons, insert_of_forall_lt member.2 last]
      have rest := @ih (front ++ [member]) (by simpa using sorted)
      simpa using rest

theorem ofList_of_isSorted {members : Members α} (sorted : IsSorted members) :
    ofList members = members :=
  foldl_insert_of_isSorted (show IsSorted ([] ++ members) from sorted)

end Members

namespace Value

mutual

/-- The members of every object in a value are sorted by name. -/
def IsNormal : Value → Prop
  | .array items => ItemsAreNormal items
  | .object members => Members.IsSorted members ∧ MembersAreNormal members
  | _ => True

def ItemsAreNormal : List Value → Prop
  | [] => True
  | item :: items => item.IsNormal ∧ ItemsAreNormal items

def MembersAreNormal : List (String × Value) → Prop
  | [] => True
  | (_, value) :: members => value.IsNormal ∧ MembersAreNormal members

end

mutual

theorem normalize_of_isNormal (value : Value) (normal : value.IsNormal) :
    value.normalize = value := by
  cases value with
  | null => rfl
  | boolean truth => rfl
  | number numeral => rfl
  | string text => rfl
  | array items => rw [normalize, normalizeItems_of_areNormal items normal]
  | object members =>
      rw [normalize, normalizeMembers_of_areNormal members normal.2,
        Members.ofList_of_isSorted normal.1]

theorem normalizeItems_of_areNormal (items : List Value) (normal : ItemsAreNormal items) :
    normalizeItems items = items := by
  cases items with
  | nil => rfl
  | cons item items =>
      rw [normalizeItems, normalize_of_isNormal item normal.1,
        normalizeItems_of_areNormal items normal.2]

theorem normalizeMembers_of_areNormal (members : List (String × Value))
    (normal : MembersAreNormal members) : normalizeMembers members = members := by
  match members with
  | [] => rfl
  | (name, value) :: members =>
      rw [normalizeMembers, normalize_of_isNormal value normal.1,
        normalizeMembers_of_areNormal members normal.2]

end

end Value

/-! ## Documents -/

theorem endsNumeral_nil : EndsNumeral [] := by
  intro c present
  simp at present

theorem document_ofList {α : Type} {reader : Reader α} {text : List Char} {result : α}
    (read : reader text = .ok (result, [])) :
    document reader (String.ofList text) = .ok result := by
  rw [document, String.toList_ofList, read]
  rfl

/-- The text of a value, with or without blanks, is parsed to the normal form of the value. -/
theorem parse_write (spacing : Spacing) {v : Value} (integers : v.HasIntegers)
    (inside : v.nesting ≤ depthLimit) :
    parse (String.ofList (v.write spacing 0)) = .ok v.normalize := by
  have read := value_write spacing v integers inside 0 endsNumeral_nil
  rw [List.append_nil] at read
  rw [parse, document_ofList read]
  rfl

/-- The compact text of a value is parsed to the normal form of the value. -/
theorem parse_compact {v : Value} (integers : v.HasIntegers) (inside : v.nesting ≤ depthLimit) :
    parse v.compact = .ok v.normalize := by
  rw [Value.compact, ← v.write_compact 0]
  exact parse_write .compact integers inside

theorem parse_indented {v : Value} (integers : v.HasIntegers) (inside : v.nesting ≤ depthLimit) :
    parse v.indented = .ok v.normalize := by
  rw [Value.indented, ← v.write_indented 0]
  exact parse_write .indented integers inside

theorem parse_compact_of_isNormal {v : Value} (integers : v.HasIntegers)
    (inside : v.nesting ≤ depthLimit) (normal : v.IsNormal) : parse v.compact = .ok v := by
  rw [parse_compact integers inside, Value.normalize_of_isNormal v normal]

theorem parse_compact_tooDeep {v : Value} (integers : v.HasIntegers)
    (deep : depthLimit < v.nesting) :
    ∃ error, parse v.compact = .error error ∧ error.reason = .tooDeep := by
  obtain ⟨fault, refused, reason⟩ := value_tooDeep .compact v integers deep 0 []
  rw [List.append_nil, v.write_compact] at refused
  refine ⟨fault.toError v.compact.toList, ?_, reason⟩
  rw [parse, document, Value.compact, String.toList_ofList, refused]
  rfl

/-- Values with the same compact text are the same. -/
theorem compact_inj {v w : Value} (integers : v.HasIntegers) (others : w.HasIntegers) :
    v.compact = w.compact ↔ v = w := by
  constructor
  · intro same
    have first := value_print v integers (Nat.le_max_left v.nesting w.nesting) endsNumeral_nil
    have second := value_print w others (Nat.le_max_right v.nesting w.nesting) endsNumeral_nil
    rw [String.ofList_inj.mp same, second] at first
    exact (congrArg Prod.fst (Except.ok.inj first)).symm
  · exact fun same => congrArg Value.compact same

end Json
end GatewayTelemetry
