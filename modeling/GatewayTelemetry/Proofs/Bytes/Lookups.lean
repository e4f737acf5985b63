import GatewayTelemetry.Proofs.Bytes.Values

/-!
# Looking into values byte by byte

Names that are looked for are ASCII, and so is what a string is compared with. A respelled string is
such a word if and only if the string is, so a value and one that is not distinct from it have the
same members under such names, of several with one name the same one.
-/

namespace GatewayTelemetry
namespace Json

theorem Respelled.eq_iff {text other word : List Char} (same : Respelled text other)
    (ascii : OnlyAscii word) : text = word ↔ other = word := by
  induction same generalizing word with
  | nil => exact Iff.rfl
  | kept c later ih =>
      cases word with
      | nil => exact iff_of_false (List.cons_ne_nil _ _) (List.cons_ne_nil _ _)
      | cons d word =>
          rw [List.cons_eq_cons, List.cons_eq_cons, ih ascii.tail]
  | @spread c foreign text other later ih =>
      obtain ⟨d, more, split⟩ := List.exists_cons_of_ne_nil (byteChars_ne_nil c)
      have foreignToo := not_isAscii_of_mem_byteChars foreign d (split ▸ List.mem_cons_self)
      rw [split]
      refine iff_of_false ?_ ?_
      · rintro rfl
        exact foreign ascii.head
      · rintro rfl
        exact foreignToo ascii.head

theorem Respelled.eq_word_iff {text other word : String} (same : Respelled text.toList other.toList)
    (ascii : OnlyAscii word.toList) : text = word ↔ other = word := by
  rw [← String.toList_inj, ← String.toList_inj]
  exact same.eq_iff ascii

/-! ## Members -/

theorem rel_bind {α β : Type} {related : α → α → Prop} {further : β → β → Prop}
    {found other : Option α} (same : Option.Rel related found other) {f g : α → Option β}
    (later : ∀ a b, related a b → Option.Rel further (f a) (g b)) :
    Option.Rel further (found.bind f) (other.bind g) := by
  cases same with
  | none => exact .none
  | some valueSame => exact later _ _ valueSame

namespace Members

variable {α : Type} {related : α → α → Prop}

/-- Under each ASCII name, related values are found, or none. -/
def FoundAlike (related : α → α → Prop) (members others : Members α) : Prop :=
  ∀ name : String, OnlyAscii name.toList →
    Option.Rel related (members.lookup name) (others.lookup name)

theorem FoundAlike.insert {members others : Members α} (found : FoundAlike related members others)
    {name other : String} (sameName : Respelled name.toList other.toList) {value later : α}
    (same : related value later) :
    FoundAlike related (members.insert name value) (others.insert other later) := by
  intro word ascii
  by_cases named : name = word
  · obtain rfl := named
    obtain rfl := (sameName.eq_word_iff ascii).mp rfl
    rw [lookup_insert_self, lookup_insert_self]
    exact .some same
  · have unnamed : other ≠ word := fun equal => named ((sameName.eq_word_iff ascii).mpr equal)
    rw [lookup_insert_of_ne (Ne.symm named), lookup_insert_of_ne (Ne.symm unnamed)]
    exact found word ascii

/-- Of several members with one ASCII name, the same one counts. -/
theorem foundAlike_ofList {entries others : List (String × α)}
    (same : List.Forall₂ (fun entry other =>
      Respelled entry.1.toList other.1.toList ∧ related entry.2 other.2) entries others) :
    FoundAlike related (ofList entries) (ofList others) :=
  List.rel_foldl (fun _ _ found _ _ entrySame => found.insert entrySame.1 entrySame.2)
    (fun _ _ => .none) same

end Members

/-! ## Values -/

namespace Value

theorem indistinct_of_blurred {value other : Value} (same : value.Blurred other) :
    value.normalize.Indistinct other.normalize :=
  ⟨value, other, same, rfl, rfl⟩

theorem forall₂_normalizeItems {items others : List Value}
    (same : List.Forall₂ Blurred items others) :
    List.Forall₂ Indistinct (normalizeItems items) (normalizeItems others) := by
  induction same with
  | nil => exact .nil
  | cons itemSame later ih => exact .cons (indistinct_of_blurred itemSame) ih

theorem forall₂_normalizeMembers {members others : List (String × Value)}
    (same : List.Forall₂ BlurredMember members others) :
    List.Forall₂ (fun member other =>
        Respelled member.1.toList other.1.toList ∧ Indistinct member.2 other.2)
      (normalizeMembers members) (normalizeMembers others) := by
  induction same with
  | nil => exact .nil
  | cons memberSame later ih =>
      obtain ⟨nameSame, valueSame⟩ := memberSame
      exact .cons ⟨nameSame, indistinct_of_blurred valueSame⟩ ih

/-- What is not distinct is of one kind, and what it holds is not distinct. -/
inductive SameKind : Value → Value → Prop
  | null : SameKind .null .null
  | boolean (truth : Bool) : SameKind (.boolean truth) (.boolean truth)
  | number (numeral : Number) : SameKind (.number numeral) (.number numeral)
  | string {text other : String} (same : Respelled text.toList other.toList) :
      SameKind (.string text) (.string other)
  | array {items others : List Value} (same : List.Forall₂ Indistinct items others) :
      SameKind (.array items) (.array others)
  | object {members others : Members Value} (same : Members.FoundAlike Indistinct members others) :
      SameKind (.object members) (.object others)

theorem Indistinct.sameKind {value other : Value} (same : value.Indistinct other) :
    SameKind value other := by
  obtain ⟨first, second, blurred, rfl, rfl⟩ := same
  cases blurred with
  | null => exact .null
  | boolean truth => exact .boolean truth
  | number numeral => exact .number numeral
  | string textSame => exact .string textSame
  | array itemsSame => exact .array (forall₂_normalizeItems itemsSame)
  | object membersSame =>
      exact .object (Members.foundAlike_ofList (forall₂_normalizeMembers membersSame))

theorem Indistinct.member? {value other : Value} (same : value.Indistinct other) (name : String)
    (ascii : OnlyAscii name.toList) :
    Option.Rel Indistinct (value.member? name) (other.member? name) := by
  cases same.sameKind with
  | object found => exact found name ascii
  | _ => exact .none

theorem Indistinct.text? {value other : Value} (same : value.Indistinct other) :
    Option.Rel (fun text other => Respelled text.toList other.toList) value.text? other.text? := by
  cases same.sameKind with
  | string textSame => exact .some textSame
  | _ => exact .none

theorem Indistinct.isNull_eq {value other : Value} (same : value.Indistinct other) :
    value.isNull = other.isNull := by
  cases same.sameKind <;> rfl

end Value
end Json
end GatewayTelemetry
