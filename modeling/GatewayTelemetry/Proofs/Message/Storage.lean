import GatewayTelemetry.Message.File
import GatewayTelemetry.Proofs.Json.OneLine
import GatewayTelemetry.Proofs.Message.RoundTrip

/-!
# Message files keep their messages

A file in which every message is written on a line of its own gives back the messages, in order,
however the lines end and whatever blank lines stand between them. A blank line may itself end
with a carriage return, which then belongs to the line end or to the line; it is blank either way.
-/

namespace GatewayTelemetry

/-! ## Lines -/

namespace Text

/-- A line feed ends a line, and a carriage return before it may belong to the line end. -/
theorem lines_append_feed {line : List Char} (noFeed : '\n' ∉ line) (text : List Char) :
    ∃ kept, (line = kept ∨ line = kept ++ ['\r']) ∧
      lines (line ++ '\n' :: text) = kept :: lines text := by
  by_cases last : line.getLast? = some '\r'
  · obtain ⟨kept, rfl⟩ := List.getLast?_eq_some_iff.mp last
    have keptFeed : '\n' ∉ kept := fun present => noFeed (List.mem_append_left _ present)
    refine ⟨kept, .inr rfl, ?_⟩
    rw [List.append_assoc]
    exact lines_append_crlf keptFeed text
  · exact ⟨line, .inl rfl, lines_append_lf noFeed last text⟩

/-- A last line that is not ended is kept as it stands. -/
theorem lines_of_noFeed {line : List Char} (noFeed : '\n' ∉ line) (filled : line ≠ []) :
    lines line = [line] := by
  induction line with
  | nil => exact absurd rfl filled
  | cons c line ih =>
      have plain : c ≠ '\n' := fun same => noFeed (same ▸ List.mem_cons_self)
      have later : '\n' ∉ line := fun present => noFeed (List.mem_cons_of_mem c present)
      rw [lines]
      · cases line with
        | nil => rfl
        | cons d line => rw [ih later (List.cons_ne_nil d line)]
      · exact plain
      · rintro text - rfl
        exact later List.mem_cons_self

def filledLines (text : List Char) : List (List Char) :=
  (lines text).filter fun line => !allBlank line

end Text

/-! ## Files laid out in lines -/

namespace MessageFile

inductive LineEnd where
  | feed
  | returnFeed

def LineEnd.text : LineEnd → List Char
  | .feed => ['\n']
  | .returnFeed => ['\r', '\n']

inductive Line where
  | message (sent : Message)
  | blank (text : List Char)

namespace Line

def text : Line → List Char
  | .message sent => sent.toJson.compact.toList
  | .blank text => text

def message? : Line → Option Message
  | .message sent => some sent
  | .blank _ => none

/-- A message can be read back, and a blank line is one line of blanks. -/
def IsValid : Line → Prop
  | .message sent => sent.metadata.FitsIn 125
  | .blank text => '\n' ∉ text ∧ Text.allBlank text = true

end Line

/-- A message file written line by line. -/
structure Layout where
  ended : List (Line × LineEnd)
  last : Option Line

namespace Layout

def text (layout : Layout) : List Char :=
  (layout.ended.flatMap fun line => line.1.text ++ line.2.text) ++
    (layout.last.map Line.text).getD []

def content (layout : Layout) : String :=
  String.ofList layout.text

def messages (layout : Layout) : List Message :=
  (layout.ended.map Prod.fst ++ layout.last.toList).filterMap Line.message?

/-- Every line is valid. -/
def IsValid (layout : Layout) : Prop :=
  ∀ line ∈ layout.ended.map Prod.fst ++ layout.last.toList, line.IsValid

end Layout

/-! ## What is on the lines -/

namespace Line

/-- What reading keeps of a line: nothing of a blank one. -/
def kept : Line → List (List Char)
  | .message sent => [sent.toJson.print]
  | .blank _ => []

theorem noControl_message {sent : Message} (fits : sent.metadata.FitsIn 125) :
    Json.NoControl sent.toJson.print :=
  Json.Value.noControl_print _ (Message.hasIntegers_toJson fits)

theorem text_message (sent : Message) : text (.message sent) = sent.toJson.print :=
  String.toList_ofList

/-- The text of a message starts with a brace, so a line with it is kept. -/
theorem filter_message (sent : Message) (lines : List (List Char)) :
    (sent.toJson.print :: lines).filter (fun line => !Text.allBlank line) =
      sent.toJson.print :: lines.filter fun line => !Text.allBlank line :=
  rfl

theorem filter_blank {text : List Char} (blank : Text.allBlank text = true)
    (lines : List (List Char)) :
    (text :: lines).filter (fun line => !Text.allBlank line) =
      lines.filter fun line => !Text.allBlank line := by
  rw [List.filter_cons_of_neg]
  simp [blank]

theorem filledLines_ended {line : Line} (valid : line.IsValid) (lineEnd : LineEnd)
    (rest : List Char) :
    Text.filledLines (line.text ++ lineEnd.text ++ rest) = line.kept ++ Text.filledLines rest := by
  cases line with
  | message sent =>
      have clean := noControl_message valid
      have noFeed : '\n' ∉ sent.toJson.print := clean.not_mem (by decide)
      have noReturn : sent.toJson.print.getLast? ≠ some '\r' := fun last =>
        clean.not_mem (by decide) (List.mem_of_getLast? last)
      rw [text_message, List.append_assoc, Text.filledLines]
      cases lineEnd with
      | feed =>
          rw [LineEnd.text, List.singleton_append, Text.lines_append_lf noFeed noReturn]
          exact filter_message sent _
      | returnFeed =>
          rw [LineEnd.text, List.cons_append, List.singleton_append, Text.lines_append_crlf noFeed]
          exact filter_message sent _
  | blank text =>
      obtain ⟨noFeed, blank⟩ := valid
      rw [Line.text, List.append_assoc, Text.filledLines]
      cases lineEnd with
      | feed =>
          obtain ⟨kept, same | same, split⟩ := Text.lines_append_feed noFeed rest
          all_goals rw [LineEnd.text, List.singleton_append, split]
          · exact filter_blank (same ▸ blank) _
          · refine filter_blank ?_ _
            rw [same, Text.allBlank, List.all_append, Bool.and_eq_true] at blank
            exact blank.1
      | returnFeed =>
          rw [LineEnd.text, List.cons_append, List.singleton_append, Text.lines_append_crlf noFeed]
          exact filter_blank blank _

theorem filledLines_last {line : Line} (valid : line.IsValid) :
    Text.filledLines line.text = line.kept := by
  cases line with
  | message sent =>
      have noFeed : '\n' ∉ sent.toJson.print := (noControl_message valid).not_mem (by decide)
      rw [text_message, Text.filledLines, Text.lines_of_noFeed noFeed (List.cons_ne_nil _ _)]
      exact filter_message sent []
  | blank text =>
      obtain ⟨noFeed, blank⟩ := valid
      by_cases empty : text = []
      · subst empty
        rfl
      · rw [Line.text, Text.filledLines, Text.lines_of_noFeed noFeed empty]
        exact filter_blank blank []

end Line

namespace Layout

theorem flatMap_kept (lines : List Line) :
    lines.flatMap Line.kept =
      (lines.filterMap Line.message?).map fun sent => sent.toJson.print := by
  induction lines with
  | nil => rfl
  | cons line lines ih =>
      cases line with
      | message sent => exact congrArg (sent.toJson.print :: ·) ih
      | blank text => exact ih

/-- The lines of a file that are not blank are the texts of its messages. -/
theorem filledLines_text {layout : Layout} (valid : layout.IsValid) :
    Text.filledLines layout.text = layout.messages.map fun sent => sent.toJson.print := by
  obtain ⟨ended, last⟩ := layout
  rw [messages, ← flatMap_kept, List.flatMap_append]
  induction ended with
  | nil =>
      cases last with
      | none => rfl
      | some line => simpa [text] using Line.filledLines_last (valid line (by simp))
  | cons line ended ih =>
      have head := Line.filledLines_ended (valid line.1 (by simp)) line.2
        (text ⟨ended, last⟩)
      have tail := ih fun later present => valid later (List.mem_cons_of_mem _ present)
      rw [tail] at head
      simpa [text] using head

end Layout

theorem map_numberedLines (content : String) :
    (numberedLines content).map Prod.fst = Text.filledLines content.toList := by
  have numbered : ((Text.lines content.toList).zipIdx 1).map Prod.fst = Text.lines content.toList :=
    List.zipIdx_map_fst 1 _
  rw [numberedLines, Text.filledLines, ← numbered, List.filter_map, numbered]
  rfl

theorem mapM_readLine {numbered : List NumberedLine} {messages : List Message}
    (texts : numbered.map Prod.fst = messages.map fun sent => sent.toJson.print)
    (fits : ∀ sent ∈ messages, sent.metadata.FitsIn 125) :
    numbered.mapM readLine = .ok messages := by
  induction messages generalizing numbered with
  | nil =>
      rw [List.map_nil, List.map_eq_nil_iff] at texts
      subst texts
      rfl
  | cons sent messages ih =>
      obtain ⟨line, numbered, rfl, text, texts⟩ := List.map_eq_cons_iff.mp texts
      have head : readLine line = .ok sent := by
        rw [readLine, text]
        exact congrArg (Except.mapError _) (Message.parse_compact (fits sent List.mem_cons_self))
      have tail := ih texts fun later present => fits later (List.mem_cons_of_mem sent present)
      rw [List.mapM_cons, head, tail]
      rfl

/-- The content of a file gives back the messages that were written to it. -/
theorem read_content {layout : Layout} (valid : layout.IsValid) :
    read layout.content = .ok layout.messages := by
  refine mapM_readLine ?_ fun sent present => ?_
  · rw [map_numberedLines, Layout.content, String.toList_ofList, Layout.filledLines_text valid]
  · obtain ⟨line, among, found⟩ := List.mem_filterMap.mp present
    cases line with
    | message other => exact Option.some.inj found ▸ valid _ among
    | blank text => cases found

/-- The bytes of a file give back the messages that were written to it. -/
theorem readBytes_content {layout : Layout} (valid : layout.IsValid) :
    readBytes layout.content.toUTF8 = .ok layout.messages := by
  have decoded : String.fromUTF8? layout.content.toUTF8 = some layout.content :=
    dif_pos layout.content.isValidUTF8
  rw [readBytes, decoded]
  exact read_content valid

/-- A blank line that ends with a carriage return, a message with a line end in its payload, and a
message without payload or metadata on an unterminated line. -/
def sampleLayout : Layout where
  ended := [
    (.blank [' ', '\u2003', '\r'], .feed),
    (.message ⟨.text "\r\n", ⟨some "status/1/lock", [("level", .array [.number (.integer (-3))])]⟩⟩,
      .returnFeed)]
  last := some (.message ⟨.bytes [], .empty⟩)

theorem readBytes_content_sampleLayout :
    sampleLayout.IsValid ∧ readBytes sampleLayout.content.toUTF8 = .ok sampleLayout.messages := by
  have valid : sampleLayout.IsValid := by
    intro line present
    simp only [sampleLayout, List.map_cons, List.map_nil, Option.toList_some, List.cons_append,
      List.nil_append, List.mem_cons, List.not_mem_nil, or_false] at present
    rcases present with rfl | rfl | rfl
    · exact ⟨by decide, by decide⟩
    · refine ⟨?_, Json.Members.isSorted_singleton _, ?_, ?_, ?_⟩
      all_goals simp only [List.forall_mem_singleton]
      · decide
      · exact ⟨trivial, trivial⟩
      · exact ⟨⟨by decide, by decide⟩, trivial⟩
      · decide
    · exact Metadata.fitsIn_nil 125 none
  exact ⟨valid, readBytes_content valid⟩

end MessageFile
end GatewayTelemetry
