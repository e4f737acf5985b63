import GatewayTelemetry.Message
import GatewayTelemetry.Proofs.Json.Reordered
import GatewayTelemetry.Proofs.Json.Structures

/-!
# What a value is read as

Which message is read from the text of a value depends on the value alone, and so does whether any
is read. The same holds for metadata, of which a member is the topic or one of the others.
-/

namespace GatewayTelemetry

open Json

/-! ## Metadata -/

namespace Metadata

/-- What has been read of metadata once a member is added; a second topic is refused. -/
def add? (state : Draft) (member : String × Value) : Option Draft :=
  if member.1 = topicName then
    match state.topic? with
    | some _ => none
    | none => some { state with topic? := some member.2.text? }
  else some { state with extra := state.extra.insert member.1 member.2.normalize }

/-- The metadata that members make up, unless they have two topics. -/
def ofMembers? (members : List (String × Value)) : Option Metadata :=
  (members.foldlM add? ⟨none, []⟩).map fun state => ⟨state.topic?.join, state.extra⟩

/-- The metadata that a value stands for, which has to be an object. -/
def ofValue? : Value → Option Metadata
  | .object members => ofMembers? members
  | _ => none

theorem gives_readField {depth : Nat} (state : Draft) {member : String × Value}
    (integers : member.2.HasIntegers) (inside : member.2.nesting ≤ depth) {rest : List Char}
    (ends : EndsNumeral rest) :
    Gives (add? state member) rest
      (readField depth state member.1 (':' :: member.2.print ++ rest)) := by
  have read := value_print member.2 integers inside ends
  rw [add?, readField]
  split
  · cases state.topic? with
    | some topic => exact .of_error rest
    | none =>
        rw [List.cons_append, colon_colon]
        simp only [bind, Except.bind, read]
        exact .of_ok rfl
  · rw [List.cons_append, colon_colon]
    simp only [bind, Except.bind, read]
    exact .of_ok rfl

theorem read_eq_error (depth : Nat) {text : List Char}
    (noBrace : ∀ rest, skipSpace text ≠ '\x7b' :: rest) :
    ∃ fault, read depth text = .error fault := by
  rw [read]
  split
  · next rest same => exact absurd same (noBrace rest)
  · exact wrongKind_eq_error _ _

theorem gives_read {depth : Nat} (value : Value) (integers : value.HasIntegers)
    (inside : value.nesting ≤ depth + 1) (rest : List Char) :
    Gives (ofValue? value) rest (read depth (value.print ++ rest)) := by
  cases value with
  | object members =>
      have each := Value.membersHaveIntegers_iff.mp integers
      have shallow := Value.membersNesting_le_iff.mp (Nat.le_of_succ_le_succ inside)
      have fields := gives_fields_object (fun state member among rest ends =>
        gives_readField state (each member among) (shallow member among) ends) ⟨none, []⟩ rest
      rw [Value.print, List.cons_append, List.cons_append, List.append_assoc,
        List.singleton_append, read, skipSpace_cons (by decide)]
      exact fields.map fun state : Draft => (⟨state.topic?.join, state.extra⟩ : Metadata)
  | array items => exact read_eq_error depth nofun
  | _ =>
      obtain ⟨c, text, print, notSpace, -, noBrace⟩ :=
        Value.exists_print_eq_cons_of_isScalar integers trivial
      rw [print, List.cons_append]
      apply read_eq_error
      intro other same
      rw [skipSpace_cons notSpace] at same
      exact noBrace (List.cons.inj same).1

variable {members : List (String × Value)}

/-- The members with another name than that of the topic. -/
def others (members : List (String × Value)) : List (String × Value) :=
  members.filter fun member => member.1 ≠ topicName

/-- Among members there may be a topic once, if it has not been read before. Its place does not
matter, and the other members are set one after the other. -/
theorem foldlM_add? (members : List (String × Value)) (state : Draft) :
    members.foldlM add? state =
      if 1 < state.topic?.toList.length + (members.map Prod.fst).count topicName then none
      else some
        ⟨state.topic?.or ((members.lookup topicName).map Value.text?),
          (others members).foldl
            (fun extra member => extra.insert member.1 member.2.normalize) state.extra⟩ := by
  induction members generalizing state with
  | nil =>
      obtain ⟨topic?, extra⟩ := state
      cases topic? with
      | none => rfl
      | some topic => rfl
  | cons member members ih =>
      obtain ⟨topic?, extra⟩ := state
      obtain ⟨name, found⟩ := member
      rw [List.foldlM_cons, add?, List.map_cons]
      by_cases same : name = topicName
      · -- A topic counts as read before the others; a second one is refused at once.
        subst same
        cases topic? with
        | none =>
            refine (ih _).trans (if_congr ?_ rfl ?_)
            · simp [Nat.add_comm]
            · simp [others]
        | some topic => simp
      · have unequal : (topicName == name) = false := beq_false_of_ne (Ne.symm same)
        rw [if_neg same]
        refine (ih _).trans (if_congr ?_ rfl ?_)
        · simp [same]
        · simp [others, same, unequal, List.lookup_cons]

/-- The metadata of members without a second topic. -/
theorem ofMembers?_eq (members : List (String × Value)) :
    ofMembers? members =
      if 1 < (members.map Prod.fst).count topicName then none
      else some
        ⟨(members.lookup topicName).bind Value.text?,
          Members.ofList (Value.normalizeMembers (others members))⟩ := by
  rw [ofMembers?, foldlM_add?, Value.normalizeMembers_eq_map, Members.ofList, List.foldl_map]
  cases members.lookup topicName with
  | none => simp [apply_ite]
  | some found => simp [apply_ite]

theorem ofMembers?_eq_none_iff :
    ofMembers? members = none ↔ 1 < (members.map Prod.fst).count topicName := by
  rw [ofMembers?_eq]
  split
  · next twice => exact iff_of_true rfl twice
  · next notTwice => exact iff_of_false nofun notTwice

theorem ofMembers?_eq_some_iff {metadata : Metadata} :
    ofMembers? members = some metadata ↔
      (members.map Prod.fst).count topicName ≤ 1 ∧
        metadata = ⟨(members.lookup topicName).bind Value.text?,
          Members.ofList (Value.normalizeMembers (others members))⟩ := by
  rw [ofMembers?_eq]
  split
  · next twice => exact iff_of_false nofun fun once => Nat.not_lt.mpr once.1 twice
  · next notTwice => simp [Nat.le_of_not_lt notTwice, eq_comm]

end Metadata

/-! ## Messages -/

namespace Message

/-- What has been read of a message once a member is added; a second payload is refused, and so are
second metadata. -/
def add? (state : Draft) (member : String × Value) : Option Draft :=
  if member.1 = "payload" then
    match state.payload? with
    | some _ => none
    | none =>
      (Payload.ofJson? member.2).map fun payload => { state with payload? := some payload }
  else if member.1 = "metadata" then
    match state.metadata? with
    | some _ => none
    | none =>
      (Metadata.ofValue? member.2).map fun metadata => { state with metadata? := some metadata }
  else some state

/-- The message with a payload and what stands behind it in an array, nothing or metadata. -/
def withItems? (payload : Payload) : List Value → Option Message
  | [] => some ⟨payload, .empty⟩
  | [metadata] => (Metadata.ofValue? metadata).map fun metadata => ⟨payload, metadata⟩
  | _ :: _ :: _ => none

/-- The message that a value stands for: an object with a payload, or an array that starts with
one. -/
def ofValue? : Value → Option Message
  | .object members =>
    (members.foldlM add? ⟨none, none⟩).bind fun state =>
      state.payload?.map fun payload => ⟨payload, state.metadata?.getD .empty⟩
  | .array (payload :: items) =>
    (Payload.ofJson? payload).bind fun payload => withItems? payload items
  | _ => none

theorem gives_readPayload (refuse : Reason → List Char → Fault) {value : Value}
    (integers : value.HasIntegers) (inside : value.nesting ≤ innerDepth) {rest : List Char}
    (ends : EndsNumeral rest) :
    Gives (Payload.ofJson? value) rest (readPayload refuse (value.print ++ rest)) := by
  have read := value_print value integers inside ends
  rw [readPayload, read]
  simp only [bind, Except.bind]
  cases Payload.ofJson? value with
  | some payload => exact .of_ok rfl
  | none => exact .of_error rest

theorem gives_readField (state : Draft) {member : String × Value}
    (integers : member.2.HasIntegers) (inside : member.2.nesting ≤ innerDepth)
    {rest : List Char} (ends : EndsNumeral rest) :
    Gives (add? state member) rest (readField state member.1 (':' :: member.2.print ++ rest)) := by
  rw [add?, readField]
  split
  · cases state.payload? with
    | some payload => exact .of_error rest
    | none =>
        rw [List.cons_append, colon_colon]
        exact (gives_readPayload .inObject integers inside ends).map _
  · split
    · cases state.metadata? with
      | some metadata => exact .of_error rest
      | none =>
          rw [List.cons_append, colon_colon]
          exact (Metadata.gives_read member.2 integers inside rest).map _
    · rw [List.cons_append, colon_colon]
      simp only [bind, Except.bind, skip_print integers ends]
      exact .of_ok rfl

theorem gives_readObject {members : List (String × Value)}
    (integers : Value.MembersHaveIntegers members)
    (inside : Value.membersNesting members ≤ innerDepth) (rest : List Char) :
    Gives (ofValue? (.object members)) rest
      (readObject (Value.printMembers members ++ '\x7d' :: rest)) := by
  have each := Value.membersHaveIntegers_iff.mp integers
  have shallow := Value.membersNesting_le_iff.mp inside
  have fields := gives_fields_object (fun state member among rest ends =>
    gives_readField state (each member among) (shallow member among) ends) ⟨none, none⟩ rest
  rw [ofValue?, readObject]
  apply fields.bind
  intro state _
  obtain ⟨payload?, metadata?⟩ := state
  cases payload? with
  | none => exact .of_error rest
  | some payload => exact .of_ok rfl

theorem gives_readList {items : List Value} (integers : Value.ItemsHaveIntegers items)
    (inside : Value.itemsNesting items ≤ innerDepth) (rest : List Char) :
    Gives (ofValue? (.array items)) rest
      (readList (Value.printItems items ++ ']' :: rest)) := by
  match items, integers with
  | [], _ => exact .of_error rest
  | payload :: items, integers =>
      have shallow := Value.itemsNesting_le_iff.mp inside
      rw [ofValue?, readList, nextItem_printItems integers.1]
      apply (gives_readPayload .inList integers.1 (shallow payload List.mem_cons_self)
        (endsNumeral_beforeItems items rest)).bind
      intro payload _
      -- Behind the payload there is nothing, metadata alone, or metadata with something behind it.
      match items, integers.2 with
      | [], _ => exact .of_ok rfl
      | metadata :: items, integers =>
          have inside : metadata.nesting ≤ innerDepth - 1 + 1 := shallow metadata (by simp)
          have read := Metadata.gives_read metadata integers.1 inside
            (beforeItems false items ++ ']' :: rest)
          simp only [nextItem_beforeItems integers.1]
          match items, integers.2 with
          | [], _ =>
              rw [withItems?, Option.map_eq_bind]
              exact read.bind fun _ _ => .of_ok rfl
          | other :: items, _ =>
              obtain ⟨fault, refused⟩ := endOfList_beforeItems other items (']' :: rest)
              rw [withItems?, ← Option.bind_fun_none (Metadata.ofValue? metadata)]
              apply read.bind
              intro _ _
              simp only [refused]
              exact .of_error rest

/-- The text of a value is read as the message that the value stands for. -/
theorem gives_read (value : Value) (integers : value.HasIntegers)
    (inside : value.nesting ≤ depthLimit) (rest : List Char) :
    Gives (ofValue? value) rest (read (value.print ++ rest)) := by
  cases value with
  | object members =>
      rw [Value.print, List.cons_append, List.cons_append, List.append_assoc,
        List.singleton_append, read, skipSpace_cons (by decide)]
      exact gives_readObject integers (Nat.le_of_succ_le_succ inside) rest
  | array items =>
      rw [Value.print, List.cons_append, List.cons_append, List.append_assoc,
        List.singleton_append, read, skipSpace_cons (by decide)]
      exact gives_readList integers (Nat.le_of_succ_le_succ inside) rest
  | _ =>
      obtain ⟨c, text, print, notSpace, noBracket, noBrace⟩ :=
        Value.exists_print_eq_cons_of_isScalar integers trivial
      rw [print, List.cons_append, read, skipSpace_cons notSpace]
      split
      · next same => exact absurd (List.cons.inj same).1 noBrace
      · next same => exact absurd (List.cons.inj same).1 noBracket
      · exact wrongKind_eq_error _ _

end Message
end GatewayTelemetry
