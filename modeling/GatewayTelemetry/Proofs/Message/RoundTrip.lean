import GatewayTelemetry.Proofs.Message.Reading

/-!
# Messages are read as they are written

Reading the JSON text of a message gives the message back: a text stays a text, bytes stay bytes,
the topic stays what it was, and so do all other members of the metadata.
-/

namespace GatewayTelemetry

open Json

/-! ## Payloads -/

namespace Payload

theorem byte?_toNat (code : UInt8) : byte? (.number (.integer code.toNat)) = some code := by
  have inRange : (0 : Int) ≤ code.toNat ∧ (code.toNat : Int) ≤ 255 := by
    have := code.toNat_lt
    omega
  rw [byte?, if_pos inRange, Int.toNat_natCast, UInt8.ofNat_toNat]

theorem mapM_byte? (codes : List UInt8) :
    (codes.map fun code => Value.number (.integer code.toNat)).mapM byte? = some codes := by
  induction codes with
  | nil => rfl
  | cons code codes ih => simp [List.mapM_cons, byte?_toNat, ih]

/-- A payload is told from the form of its JSON value. -/
theorem ofJson?_toJson (payload : Payload) : ofJson? payload.toJson = some payload := by
  cases payload with
  | text value => rfl
  | bytes codes => exact congrArg (Option.map Payload.bytes) (mapM_byte? codes)

theorem itemsHaveIntegers_bytes (codes : List UInt8) :
    Value.ItemsHaveIntegers (codes.map fun code => .number (.integer code.toNat)) := by
  induction codes with
  | nil => trivial
  | cons code codes ih =>
      have := code.toNat_lt
      refine ⟨?_, ih⟩
      simp only [Value.HasIntegers, Number.IsInteger64, UInt64.size]
      omega

theorem itemsNesting_bytes (codes : List UInt8) :
    Value.itemsNesting (codes.map fun code => .number (.integer code.toNat)) = 0 := by
  induction codes with
  | nil => rfl
  | cons code codes ih => simp [Value.itemsNesting, Value.nesting, ih]

theorem hasIntegers_toJson (payload : Payload) : payload.toJson.HasIntegers := by
  cases payload with
  | text value => trivial
  | bytes codes => exact itemsHaveIntegers_bytes codes

theorem nesting_toJson_le (payload : Payload) : payload.toJson.nesting ≤ 1 := by
  cases payload with
  | text value => exact Nat.zero_le 1
  | bytes codes => simp [toJson, Value.nesting, itemsNesting_bytes]

end Payload

/-! ## Metadata -/

namespace Metadata

/-- Metadata that a document can hold in so many levels of nesting: its other members do not have
the name of the topic, and are sorted and in normal form, with integers for numbers. -/
structure FitsIn (depth : Nat) (metadata : Metadata) : Prop where
  noTopic : ∀ member ∈ metadata.extra, member.1 ≠ topicName
  sorted : Members.IsSorted metadata.extra
  normal : ∀ member ∈ metadata.extra, member.2.IsNormal
  integers : ∀ member ∈ metadata.extra, member.2.HasIntegers
  shallow : ∀ member ∈ metadata.extra, member.2.nesting ≤ depth

theorem fitsIn_nil (depth : Nat) (topic : Option String) : FitsIn depth ⟨topic, []⟩ where
  noTopic := List.forall_mem_nil _
  sorted := Members.isSorted_nil
  normal := List.forall_mem_nil _
  integers := List.forall_mem_nil _
  shallow := List.forall_mem_nil _

theorem hasIntegers_toJson {depth : Nat} {metadata : Metadata} (fits : metadata.FitsIn depth) :
    metadata.toJson.HasIntegers := by
  refine Value.membersHaveIntegers_iff.mpr (List.forall_mem_append.mpr ⟨?_, fits.integers⟩)
  cases metadata.topic with
  | none => simp
  | some topic => simp [Value.HasIntegers]

theorem nesting_toJson_le {depth : Nat} {metadata : Metadata} (fits : metadata.FitsIn depth) :
    metadata.toJson.nesting ≤ depth + 1 := by
  apply Nat.succ_le_succ
  refine Value.membersNesting_le_iff.mpr (List.forall_mem_append.mpr ⟨?_, fits.shallow⟩)
  cases metadata.topic with
  | none => simp
  | some topic => simp [Value.nesting]

theorem ofValue?_toJson {depth : Nat} {metadata : Metadata} (fits : metadata.FitsIn depth) :
    ofValue? metadata.toJson = some metadata := by
  obtain ⟨topic, extra⟩ := metadata
  have absent : (extra.map Prod.fst).count topicName = 0 := by
    rw [List.count_eq_zero, List.mem_map]
    rintro ⟨member, among, same⟩
    exact fits.noTopic member among same
  have notFound : extra.lookup topicName = none := by
    apply List.lookup_eq_none_iff.mpr
    intro member among
    simpa using Ne.symm (fits.noTopic member among)
  have allOther : others extra = extra := by
    apply List.filter_eq_self.mpr
    intro member among
    simpa using fits.noTopic member among
  have inOrder : Members.ofList (Value.normalizeMembers extra) = extra := by
    rw [Value.normalizeMembers_of_areNormal extra (Value.membersAreNormal_iff.mpr fits.normal),
      Members.ofList_of_isSorted fits.sorted]
  apply ofMembers?_eq_some_iff.mpr
  cases topic with
  | none => simp [absent, notFound, allOther, inOrder]
  | some topic =>
      have dropped : others ((topicName, .string topic) :: extra) = others extra := by
        simp [others]
      simp [absent, dropped, allOther, inOrder, Value.text?]

theorem read_print {depth : Nat} {metadata : Metadata} (fits : metadata.FitsIn depth)
    (rest : List Char) :
    read depth (metadata.toJson.print ++ rest) = .ok (metadata, rest) := by
  have gives := gives_read metadata.toJson (hasIntegers_toJson fits) (nesting_toJson_le fits) rest
  rwa [ofValue?_toJson fits] at gives

theorem parse_compact {metadata : Metadata} (fits : metadata.FitsIn (depthLimit - 1)) :
    parse metadata.toJson.compact = .ok metadata := by
  have read := read_print fits []
  rw [List.append_nil] at read
  exact document_ofList read

end Metadata

/-! ## Messages -/

namespace Message

theorem hasIntegers_toJson {message : Message} {depth : Nat}
    (fits : message.metadata.FitsIn depth) : message.toJson.HasIntegers :=
  ⟨message.payload.hasIntegers_toJson, Metadata.hasIntegers_toJson fits, trivial⟩

theorem nesting_toJson_le {message : Message} {depth : Nat}
    (fits : message.metadata.FitsIn depth) : message.toJson.nesting ≤ depth + 2 := by
  have payload := message.payload.nesting_toJson_le
  have metadata := Metadata.nesting_toJson_le fits
  simp only [toJson, Value.nesting, Value.membersNesting]
  omega

/-- The value of a message stands for that message. -/
theorem ofValue?_toJson {message : Message} {depth : Nat}
    (fits : message.metadata.FitsIn depth) : ofValue? message.toJson = some message := by
  simp [toJson, ofValue?, add?, Payload.ofJson?_toJson, Metadata.ofValue?_toJson fits]

/-- A message is read as it is written. -/
theorem read_print {message : Message} (fits : message.metadata.FitsIn 125) (rest : List Char) :
    read (message.toJson.print ++ rest) = .ok (message, rest) := by
  have gives := gives_read message.toJson (hasIntegers_toJson fits) (nesting_toJson_le fits) rest
  rwa [ofValue?_toJson fits] at gives

theorem parse_compact {message : Message} (fits : message.metadata.FitsIn 125) :
    parse message.toJson.compact = .ok message := by
  have read := read_print fits []
  rw [List.append_nil] at read
  exact document_ofList read

end Message
end GatewayTelemetry
