import GatewayTelemetry.Proofs.Telemetry.Extraction
import GatewayTelemetry.Proofs.Telemetry.InsertionOrder
import GatewayTelemetry.Proofs.Text.Separator

/-!
# Telemetry of tokens

A text of keys and values is cut into tokens at its commas. Each token sets the reading of one name:
the label of its key, or the name that all keys without a label share. The last token with a name
decides on the reading, and the first one on the place of the name.
-/

namespace GatewayTelemetry
namespace Extraction

/-! ## Keys and readings -/

/-- The key of a token: what stands before its first equals sign. -/
def tokenKey (token : List Char) : String :=
  String.ofList (token.takeWhile (· != '='))

/-- The reading of a token: what stands between its first equals sign and the second. -/
def tokenReading (token : List Char) : Reading :=
  match token.dropWhile (· != '=') with
  | [] => .undefined
  | _ :: value => .text (String.ofList (value.takeWhile (· != '=')))

theorem Pair.ofToken_eq (token : List Char) :
    Pair.ofToken token = ⟨tokenKey token, tokenReading token⟩ := by
  by_cases separated : '=' ∈ token
  · obtain ⟨key, value, rfl, keyPlain⟩ := List.eq_append_cons_of_mem separated
    rw [ofToken, tokenKey, tokenReading, Text.takeWhile_bne_append keyPlain,
      Text.dropWhile_bne_append keyPlain, List.splitOn_append_cons_self_of_not_mem keyPlain]
    dsimp only
    by_cases again : '=' ∈ value
    · obtain ⟨first, rest, rfl, firstPlain⟩ := List.eq_append_cons_of_mem again
      rw [List.splitOn_append_cons_self_of_not_mem firstPlain, Text.takeWhile_bne_append firstPlain]
    · rw [List.splitOn_eq_singleton again, Text.takeWhile_bne_of_not_mem again]
  · rw [ofToken, tokenKey, tokenReading, Text.takeWhile_bne_of_not_mem separated,
      Text.dropWhile_bne_of_not_mem separated, List.splitOn_eq_singleton separated]

theorem not_mem_of_tokenReading {token : List Char} {value : String} (noComma : ',' ∉ token)
    (reading : tokenReading token = .text value) : ',' ∉ value.toList ∧ '=' ∉ value.toList := by
  rw [tokenReading] at reading
  split at reading
  · cases reading
  · next sign rest dropped =>
    cases reading
    rw [String.toList_ofList]
    refine ⟨fun comma => noComma ?_, fun equals => ?_⟩
    · have later : ',' ∈ token.dropWhile (· != '=') :=
        dropped ▸ List.mem_cons_of_mem sign ((List.takeWhile_sublist _).mem comma)
      exact (List.dropWhile_sublist _).mem later
    · simpa using List.mem_takeWhile_imp equals

/-! ## Names -/

variable {table : Table} {category : Category} {text : String} {tokens : List (List Char)}

/-- The name that a token sets: the label of its key, or the name for keys without a label. -/
def tokenName (table : Table) (token : List Char) : String :=
  (table.entries.lookup (tokenKey token)).getD "undefined"

/-- The name that a token sets, with its reading. -/
def tokenEntry (table : Table) (token : List Char) : String × Reading :=
  (tokenName table token, tokenReading token)

theorem text_lookup_tokenKey (table : Table) (token : List Char) :
    (table.lookup (tokenKey token)).text = tokenName table token := by
  rw [Table.lookup, tokenName]
  cases table.entries.lookup (tokenKey token) <;> rfl

/-- A token sets a label of the table, or the name for keys without a label. -/
theorem tokenName_cases (table : Table) (token : List Char) :
    tokenKey token ∈ table.keys ∧ tokenName table token ∈ table.labels ∨
      tokenKey token ∉ table.keys ∧ tokenName table token = "undefined" := by
  rw [← text_lookup_tokenKey]
  rcases table.lookup_cases (tokenKey token) with ⟨label, present, found⟩ | ⟨absent, found⟩
  · rw [found]
    exact .inl ⟨List.mem_map_of_mem present, List.mem_map_of_mem present⟩
  · rw [found]
    exact .inr ⟨absent, rfl⟩

/-- Telemetry is set token by token. -/
theorem value_keyValues (split : Text.IsSplit ',' text.toList tokens) :
    (keyValues table category text).value = .ofList (tokens.map (tokenEntry table)) := by
  rw [keyValues, pairs, split.splitOn_eq, List.map_map]
  refine congrArg Telemetry.ofList (List.map_congr_left fun token _ => ?_)
  rw [Function.comp_apply, Pair.ofToken_eq, text_lookup_tokenKey, tokenEntry]

/-! ## Fields -/

/-- The fields of telemetry are those that tokens set one after the other. -/
structure IsSetBy (table : Table) (tokens : List (List Char)) (telemetry : Telemetry) : Prop where
  /-- Names stand in the order of the first tokens with them. -/
  names : telemetry.fields.map Prod.fst = (tokens.map (tokenName table)).eraseDups
  /-- The last token with a name decides on its reading. -/
  readings : ∀ name reading, (name, reading) ∈ telemetry.fields ↔
    Telemetry.IsLast (tokens.map (tokenEntry table)) name reading

theorem isSetBy_ofList (table : Table) (tokens : List (List Char)) :
    IsSetBy table tokens (.ofList (tokens.map (tokenEntry table))) where
  names := by
    rw [Telemetry.names_ofList, List.map_map]
    rfl
  readings _ _ := Telemetry.mem_fields_ofList_iff

namespace IsSetBy

variable {telemetry : Telemetry} (set : IsSetBy table tokens telemetry)

include set

theorem exists_token {name : String} {reading : Reading}
    (field : (name, reading) ∈ telemetry.fields) :
    ∃ token ∈ tokens, tokenName table token = name ∧ tokenReading token = reading := by
  obtain ⟨token, among, same⟩ := List.mem_map.mp ((set.readings name reading).mp field).mem
  obtain ⟨sameName, sameReading⟩ := Prod.mk.inj same
  exact ⟨token, among, sameName, sameReading⟩

theorem one_le_size (filled : tokens ≠ []) : 1 ≤ telemetry.size := by
  obtain ⟨token, among⟩ := List.exists_mem_of_ne_nil tokens filled
  have named : tokenName table token ∈ telemetry.fields.map Prod.fst := by
    rw [set.names, List.mem_eraseDups]
    exact List.mem_map_of_mem among
  rw [Telemetry.size, ← List.length_map]
  exact List.length_pos_of_mem named

/-- There is a field for each label at most, and one for all keys without a label. -/
theorem size_le : telemetry.size ≤ table.entries.length + 1 := by
  have named : telemetry.fields.map Prod.fst ⊆ "undefined" :: table.labels := by
    intro name among
    obtain ⟨field, present, rfl⟩ := List.mem_map.mp among
    obtain ⟨token, -, same, -⟩ := set.exists_token present
    rw [← same]
    rcases tokenName_cases table token with ⟨-, label⟩ | ⟨-, unlabelled⟩
    · exact List.mem_cons_of_mem _ label
    · exact unlabelled ▸ List.mem_cons_self
  calc
    telemetry.size = (telemetry.fields.map Prod.fst).length := (List.length_map _).symm
    _ ≤ ("undefined" :: table.labels).length := telemetry.distinct.length_le_of_subset named
    _ = table.entries.length + 1 := by rw [List.length_cons, Table.labels, List.length_map]

/-- Tokens whose keys have no label change nothing but the field that such keys share. -/
theorem readings_of_known {name : String} (labelled : name ≠ "undefined") (reading : Reading) :
    (name, reading) ∈ telemetry.fields ↔
      Telemetry.IsLast
        ((tokens.filter fun token => tokenKey token ∈ table.keys).map (tokenEntry table))
        name reading := by
  rw [set.readings]
  refine (Telemetry.isLast_filter_iff fun token _ named => ?_).symm
  rcases tokenName_cases table token with ⟨known, -⟩ | ⟨-, unlabelled⟩
  · exact decide_eq_true known
  · exact absurd (named.symm.trans unlabelled) labelled

end IsSetBy

/-- A text of keys and values is cut at its commas in one way. The names of its tokens stand in the
order of the first token with each, and the last token with a name decides on its reading. There is
a field at least, and at most one for each entry of the table and one for keys without a label. No
separator gets into a reading. A token whose key has no label changes nothing but the field that
such keys share; no label of a built-in table is the name of this field. -/
theorem keyValues_lastWins (table : Table) (category : Category) (text : String) :
    (∃ tokens, Text.IsSplit ',' text.toList tokens) ∧
      (∀ tokens, Text.IsSplit ',' text.toList tokens →
        IsSetBy table tokens (keyValues table category text).value ∧
          ∀ name reading, name ≠ "undefined" →
            ((name, reading) ∈ (keyValues table category text).value.fields ↔
              Telemetry.IsLast
                ((tokens.filter fun token => tokenKey token ∈ table.keys).map (tokenEntry table))
                name reading)) ∧
      1 ≤ (keyValues table category text).value.size ∧
      (keyValues table category text).value.size ≤ table.entries.length + 1 ∧
      (∀ name value, (name, .text value) ∈ (keyValues table category text).value.fields →
        ',' ∉ value.toList ∧ '=' ∉ value.toList) ∧
      ∀ builtin ∈ Table.builtin, "undefined" ∉ builtin.labels := by
  have split := Text.isSplit_splitOn ',' text.toList
  have set {tokens : List (List Char)} (split : Text.IsSplit ',' text.toList tokens) :
      IsSetBy table tokens (keyValues table category text).value := by
    rw [value_keyValues split]
    exact isSetBy_ofList table tokens
  refine ⟨⟨_, split⟩, fun tokens split => ⟨set split, fun name reading labelled =>
    (set split).readings_of_known labelled reading⟩, (set split).one_le_size split.filled,
    (set split).size_le, fun name value field => ?_, by decide⟩
  obtain ⟨token, among, -, read⟩ := (set split).exists_token field
  exact not_mem_of_tokenReading (split.plain token among) read

/-- Keys without a label share the first field, which is left undefined by the last of them; the
temperature keeps its place behind it, and shows what was sent last. -/
theorem keyValues_lastWins_repeatedNames :
    let tokens := ["Foo=42", "Temp=1", "Bar", "Temp=2=3"].map String.toList
    let telemetry := (keyValues .environment .environment "Foo=42,Temp=1,Bar,Temp=2=3").value
    Text.IsSplit ',' "Foo=42,Temp=1,Bar,Temp=2=3".toList tokens ∧
      telemetry.fields.map Prod.fst = ["undefined", "温度"] ∧
      ("undefined", .undefined) ∈ telemetry.fields ∧
      ("温度" ≠ "undefined" ∧ ("温度", .text "2") ∈ telemetry.fields) ∧
      ',' ∉ "2".toList ∧
      (.environment ∈ Table.builtin ∧ "undefined" ∉ Table.environment.labels) := by
  intro tokens telemetry
  have split : Text.IsSplit ',' "Foo=42,Temp=1,Bar,Temp=2=3".toList tokens :=
    ⟨by decide, by decide, by decide⟩
  have labelled : "温度" ≠ "undefined" := by decide
  have builtin : .environment ∈ Table.builtin := by simp [Table.builtin]
  obtain ⟨-, fields, -, -, plain, unlabelled⟩ :=
    keyValues_lastWins .environment .environment "Foo=42,Temp=1,Bar,Temp=2=3"
  obtain ⟨set, known⟩ := fields tokens split
  have temperature : ("温度", .text "2") ∈ telemetry.fields :=
    (known "温度" (.text "2") labelled).mpr
      ⟨[("温度", .text "1")], [], by decide, List.not_mem_nil⟩
  refine ⟨split, set.names.trans (by decide), ?_, ⟨labelled, temperature⟩,
    (plain _ _ temperature).1, builtin, unlabelled _ builtin⟩
  exact (set.readings "undefined" .undefined).mpr
    ⟨[("undefined", .text "42"), ("温度", .text "1")], [("温度", .text "2")], by decide, by decide⟩

end Extraction
end GatewayTelemetry
