import Mathlib.Data.List.DropRight
import Mathlib.Data.List.Forall2
import GatewayTelemetry.Proofs.Message.Storage

/-!
# The line of a message file that is at fault

A message file is read line by line. Every line that is not blank has to hold a message, and the
first one that does not is reported by its number among all lines, with what is wrong on it. What
stands behind that line does not count.
-/

namespace GatewayTelemetry

/-! ## Lines -/

namespace Text

/-- What stands before a line feed, without a carriage return that belongs to the line end. -/
def dropReturn (piece : List Char) : List Char :=
  if piece.getLast? = some '\r' then piece.dropLast else piece

/-- The lines of a text are the pieces that a line feed ends, each without a carriage return at its
end, and what stands behind the last line feed, if anything does. -/
def AreLines (text : List Char) (parts : List (List Char)) : Prop :=
  ∃ (ended : List (List Char)) (last : List Char),
    (∀ piece ∈ ended, '\n' ∉ piece) ∧ '\n' ∉ last ∧
    text = (ended.flatMap fun piece => piece ++ ['\n']) ++ last ∧
    parts = ended.map dropReturn ++ if last = [] then [] else [last]

theorem lines_append_piece {piece : List Char} (noFeed : '\n' ∉ piece) (text : List Char) :
    lines (piece ++ '\n' :: text) = dropReturn piece :: lines text := by
  rw [dropReturn]
  split
  · next last =>
      obtain ⟨kept, rfl⟩ := List.getLast?_eq_some_iff.mp last
      have keptFeed : '\n' ∉ kept := fun among => noFeed (List.mem_append_left _ among)
      rw [List.append_assoc, List.dropLast_concat]
      exact lines_append_crlf keptFeed text
  · next other => exact lines_append_lf noFeed other text

theorem AreLines.lines_eq {text : List Char} {parts : List (List Char)}
    (areLines : AreLines text parts) : lines text = parts := by
  obtain ⟨ended, last, plain, lastPlain, rfl, rfl⟩ := areLines
  induction ended with
  | nil =>
      by_cases empty : last = []
      · simp [empty, lines]
      · simpa [empty] using lines_of_noFeed lastPlain empty
  | cons piece ended ih =>
      have head := lines_append_piece (plain piece List.mem_cons_self)
        ((ended.flatMap fun piece => piece ++ ['\n']) ++ last)
      rw [ih fun other among => plain other (List.mem_cons_of_mem piece among)] at head
      simpa using head

theorem exists_areLines (text : List Char) : ∃ parts, AreLines text parts := by
  induction text with
  | nil => exact ⟨_, [], [], List.forall_mem_nil _, List.not_mem_nil, rfl, rfl⟩
  | cons c text ih =>
      obtain ⟨_, ended, last, plain, lastPlain, rfl, -⟩ := ih
      by_cases feed : c = '\n'
      · exact ⟨_, [] :: ended, last, List.forall_mem_cons.mpr ⟨List.not_mem_nil, plain⟩,
          lastPlain, by simp [feed], rfl⟩
      · cases ended with
        | nil => exact ⟨_, [], c :: last, plain, by simp [Ne.symm feed, lastPlain], rfl, rfl⟩
        | cons piece ended =>
            obtain ⟨first, later⟩ := List.forall_mem_cons.mp plain
            exact ⟨_, (c :: piece) :: ended, last,
              List.forall_mem_cons.mpr ⟨by simp [Ne.symm feed, first], later⟩, lastPlain, rfl, rfl⟩

/-- A text without the blanks at its front and at its end. -/
def trim (text : List Char) : List Char :=
  (text.dropWhile isBlank).rdropWhile isBlank

/-- A text is blank if trimming leaves nothing of it. -/
theorem allBlank_iff_trim {text : List Char} : allBlank text = true ↔ trim text = [] := by
  rw [allBlank, List.all_eq_true, trim, List.rdropWhile_eq_nil_iff]
  constructor
  · exact fun blank c among => blank c ((List.dropWhile_suffix isBlank).subset among)
  · intro blank c among
    rw [← List.takeWhile_append_dropWhile (p := isBlank) (l := text)] at among
    rcases List.mem_append.mp among with front | back
    · exact List.mem_takeWhile_imp front
    · exact blank c back

end Text

/-! ## Reading line by line -/

namespace MessageFile

open Text (trim)

section

variable {ε α β : Type} {outcome : Except ε α} {f : α → β}

theorem map_eq_ok_iff {result : β} :
    outcome.map f = .ok result ↔ ∃ value, outcome = .ok value ∧ f value = result := by
  cases outcome <;> simp [Except.map]

theorem map_eq_error_iff {error : ε} : outcome.map f = .error error ↔ outcome = .error error := by
  cases outcome <;> simp [Except.map]

end

/-- The messages on lines that are numbered from a number on. -/
def readFrom (number : Nat) (lines : List (List Char)) : Except MessageFileError (List Message) :=
  ((lines.zipIdx number).filter fun line => !Text.allBlank line.1).mapM readLine

theorem read_eq_readFrom (content : String) :
    read content = readFrom 1 (Text.lines content.toList) :=
  rfl

theorem readBytes_toUTF8 (content : String) : readBytes content.toUTF8 = read content := by
  have decoded : String.fromUTF8? content.toUTF8 = some content := dif_pos content.isValidUTF8
  rw [readBytes, decoded]

section

variable {line : List Char} (number : Nat) (lines : List (List Char))

theorem readFrom_blank (blank : trim line = []) :
    readFrom number (line :: lines) = readFrom (number + 1) lines := by
  have skipped : Text.allBlank line = true := Text.allBlank_iff_trim.mpr blank
  rw [readFrom, List.zipIdx_cons, List.filter_cons_of_neg (by simp [skipped])]
  rfl

theorem readFrom_filled (filled : trim line ≠ []) :
    readFrom number (line :: lines) = (do
      let message ← readLine (line, number)
      let messages ← readFrom (number + 1) lines
      pure (message :: messages)) := by
  have kept : Text.allBlank line = false :=
    Bool.eq_false_iff.mpr fun blank => filled (Text.allBlank_iff_trim.mp blank)
  rw [readFrom, List.zipIdx_cons, List.filter_cons_of_pos (by simp [kept]), List.mapM_cons]
  rfl

theorem readFrom_message {message : Message} (filled : trim line ≠ [])
    (holds : Message.parse (String.ofList line) = .ok message) :
    readFrom number (line :: lines) = (readFrom (number + 1) lines).map (message :: ·) := by
  rw [readFrom_filled number lines filled, readLine, holds]
  cases readFrom (number + 1) lines <;> rfl

theorem readFrom_broken {cause : Json.Error} (filled : trim line ≠ [])
    (broken : Message.parse (String.ofList line) = .error cause) :
    readFrom number (line :: lines) = .error (.invalidLine number cause) := by
  rw [readFrom_filled number lines filled, readLine, broken]
  rfl

end

/-- Of lines that are numbered from a number on, the first that is neither blank nor holds a message
has a certain number, and this is what is wrong on it. -/
def FirstFault (start : Nat) (lines : List (List Char)) (number : Nat) (cause : Json.Error) :
    Prop :=
  ∃ earlier line later, lines = earlier ++ line :: later ∧ number = start + earlier.length ∧
    trim line ≠ [] ∧ Message.parse (String.ofList line) = .error cause ∧
    ∀ other ∈ earlier, trim other ≠ [] → ∃ message,
      Message.parse (String.ofList other) = .ok message

/-- Each of some lines that is not blank holds a message, and these are the messages. -/
def Hold (lines : List (List Char)) (messages : List Message) : Prop :=
  List.Forall₂ (fun line message => Message.parse (String.ofList line) = .ok message)
    (lines.filter fun line => trim line ≠ []) messages

theorem hold_blank {line : List Char} {lines : List (List Char)} {messages : List Message}
    (blank : trim line = []) : Hold (line :: lines) messages ↔ Hold lines messages := by
  rw [Hold, List.filter_cons_of_neg (by simpa using blank)]
  rfl

theorem hold_filled {line : List Char} {lines : List (List Char)} {messages : List Message}
    (filled : trim line ≠ []) :
    Hold (line :: lines) messages ↔ ∃ message later,
      Message.parse (String.ofList line) = .ok message ∧ Hold lines later ∧
        messages = message :: later := by
  rw [Hold, List.filter_cons_of_pos (by simpa using filled), List.forall₂_cons_left_iff]
  rfl

/-- A line that is not at fault only moves the numbers of those behind it. -/
theorem firstFault_cons {start number : Nat} {line : List Char} {lines : List (List Char)}
    {cause : Json.Error}
    (sound : trim line ≠ [] → ∃ message, Message.parse (String.ofList line) = .ok message) :
    FirstFault start (line :: lines) number cause ↔
      FirstFault (start + 1) lines number cause := by
  constructor
  · rintro ⟨earlier, fault, later, split, rfl, filled, broken, before⟩
    cases earlier with
    | nil =>
        obtain ⟨rfl, -⟩ := List.cons.inj split
        obtain ⟨message, holds⟩ := sound filled
        cases holds.symm.trans broken
    | cons first earlier =>
        obtain ⟨rfl, rfl⟩ := List.cons.inj split
        refine ⟨earlier, fault, later, rfl, ?_, filled, broken,
          fun other among => before other (List.mem_cons_of_mem _ among)⟩
        rw [List.length_cons]
        omega
  · rintro ⟨earlier, fault, later, rfl, rfl, filled, broken, before⟩
    refine ⟨line :: earlier, fault, later, rfl, ?_, filled, broken,
      List.forall_mem_cons.mpr ⟨sound, before⟩⟩
    rw [List.length_cons]
    omega

theorem firstFault_here {start number : Nat} {line : List Char} {lines : List (List Char)}
    {cause found : Json.Error} (filled : trim line ≠ [])
    (broken : Message.parse (String.ofList line) = .error cause) :
    FirstFault start (line :: lines) number found ↔ number = start ∧ found = cause := by
  constructor
  · rintro ⟨earlier, fault, later, split, rfl, -, otherBroken, before⟩
    cases earlier with
    | nil =>
        obtain ⟨rfl, -⟩ := List.cons.inj split
        exact ⟨rfl, Except.error.inj (otherBroken.symm.trans broken)⟩
    | cons first earlier =>
        obtain ⟨rfl, -⟩ := List.cons.inj split
        obtain ⟨message, holds⟩ := before line List.mem_cons_self filled
        cases holds.symm.trans broken
  · rintro ⟨rfl, rfl⟩
    exact ⟨[], line, lines, rfl, rfl, filled, broken, List.forall_mem_nil _⟩

/-- Lines are read if each of them is blank or holds a message. -/
theorem readFrom_eq_ok_iff {number : Nat} {lines : List (List Char)} {messages : List Message} :
    readFrom number lines = .ok messages ↔ Hold lines messages := by
  induction lines generalizing number messages with
  | nil =>
      rw [Hold, List.filter_nil, List.forall₂_nil_left_iff]
      exact ⟨fun same => (Except.ok.inj same).symm, fun same => congrArg Except.ok same.symm⟩
  | cons line lines ih =>
      by_cases blank : trim line = []
      · rw [readFrom_blank number lines blank, hold_blank blank, ih]
      · rw [hold_filled blank]
        cases outcome : Message.parse (String.ofList line) with
        | error cause =>
            rw [readFrom_broken number lines blank outcome]
            simp
        | ok message =>
            rw [readFrom_message number lines blank outcome, map_eq_ok_iff]
            constructor
            · rintro ⟨later, rest, rfl⟩
              exact ⟨message, later, rfl, ih.mp rest, rfl⟩
            · rintro ⟨_, later, same, rest, rfl⟩
              obtain rfl := Except.ok.inj same
              exact ⟨later, ih.mpr rest, rfl⟩

/-- Lines are refused for the first of them that is neither blank nor holds a message. -/
theorem readFrom_eq_error_iff {start : Nat} {lines : List (List Char)}
    {error : MessageFileError} :
    readFrom start lines = .error error ↔
      ∃ number cause, FirstFault start lines number cause ∧ error = .invalidLine number cause := by
  induction lines generalizing start with
  | nil =>
      refine iff_of_false nofun ?_
      rintro ⟨number, cause, ⟨earlier, line, later, split, -⟩, -⟩
      exact List.append_ne_nil_of_right_ne_nil earlier (List.cons_ne_nil line later) split.symm
  | cons line lines ih =>
      by_cases blank : trim line = []
      · rw [readFrom_blank start lines blank, ih]
        simp only [firstFault_cons fun filled => absurd blank filled]
      · cases outcome : Message.parse (String.ofList line) with
        | error cause =>
            rw [readFrom_broken start lines blank outcome]
            simp only [firstFault_here blank outcome, Except.error.injEq]
            constructor
            · exact fun same => ⟨start, cause, ⟨rfl, rfl⟩, same.symm⟩
            · rintro ⟨_, _, ⟨rfl, rfl⟩, same⟩
              exact same.symm
        | ok message =>
            rw [readFrom_message start lines blank outcome, map_eq_error_iff, ih]
            simp only [firstFault_cons fun _ => ⟨message, outcome⟩]

/-- Lines of which each is blank or holds a message hold some messages. -/
theorem exists_hold_iff {lines : List (List Char)} :
    (∃ messages, Hold lines messages) ↔ ∀ line ∈ lines, trim line ≠ [] → ∃ message,
      Message.parse (String.ofList line) = .ok message := by
  induction lines with
  | nil => exact ⟨fun _ => List.forall_mem_nil _, fun _ => ⟨[], .nil⟩⟩
  | cons line lines ih =>
      rw [List.forall_mem_cons, ← ih]
      by_cases blank : trim line = []
      · simp only [hold_blank blank, blank, ne_eq, not_true_eq_false, false_implies, true_and]
      · simp only [hold_filled blank]
        constructor
        · rintro ⟨_, message, later, holds, rest, -⟩
          exact ⟨fun _ => ⟨message, holds⟩, later, rest⟩
        · rintro ⟨sound, later, rest⟩
          obtain ⟨message, holds⟩ := sound blank
          exact ⟨_, message, later, holds, rest, rfl⟩

/-- The first fault is the same among all lines that start with the same ones up to it. -/
theorem FirstFault.of_take_eq {lines others : List (List Char)} {number : Nat}
    {cause : Json.Error} (fault : FirstFault 1 lines number cause)
    (same : others.take number = lines.take number) : FirstFault 1 others number cause := by
  obtain ⟨earlier, line, later, rfl, rfl, filled, broken, before⟩ := fault
  refine ⟨earlier, line, others.drop (1 + earlier.length), ?_, rfl, filled, broken, before⟩
  have front : (earlier ++ line :: later).take (1 + earlier.length) = earlier ++ [line] := by
    rw [Nat.add_comm, List.take_length_add_append]
    rfl
  calc
    others = others.take (1 + earlier.length) ++ others.drop (1 + earlier.length) :=
      (List.take_append_drop _ _).symm
    _ = earlier ++ line :: others.drop (1 + earlier.length) := by
      rw [same, front, List.append_assoc, List.singleton_append]

/-! ## Contents -/

/-- A content has lines in one way. If each line that is not blank holds a message, these messages
are read, in the order of their lines. Otherwise the first line that is neither blank nor holds a
message is reported by its number among all lines, with what is wrong on it, and so it is for every
content that has the same lines up to this one. -/
theorem readBytes_firstFault (content : String) :
    (∃ lines, Text.AreLines content.toList lines) ∧
      ∀ lines, Text.AreLines content.toList lines →
        ((∃ messages, readBytes content.toUTF8 = .ok messages) ↔
          ∀ line ∈ lines, trim line ≠ [] → ∃ message,
            Message.parse (String.ofList line) = .ok message) ∧
        (∀ messages, readBytes content.toUTF8 = .ok messages ↔
          List.Forall₂ (fun line message => Message.parse (String.ofList line) = .ok message)
            (lines.filter fun line => trim line ≠ []) messages) ∧
        (∀ error, readBytes content.toUTF8 = .error error ↔
          ∃ number cause, FirstFault 1 lines number cause ∧ error = .invalidLine number cause) ∧
        ∀ number cause, FirstFault 1 lines number cause →
          (∀ path, ((MessageFileError.invalidLine number cause).toFailure path).chain =
            ["Invalid message on line " ++ toString number, cause.message]) ∧
          ∀ (other : String) otherLines, Text.AreLines other.toList otherLines →
            otherLines.take number = lines.take number →
              readBytes other.toUTF8 = .error (.invalidLine number cause) := by
  have readAs {content : String} {lines : List (List Char)}
      (areLines : Text.AreLines content.toList lines) :
      readBytes content.toUTF8 = readFrom 1 lines := by
    rw [readBytes_toUTF8, read_eq_readFrom, areLines.lines_eq]
  refine ⟨Text.exists_areLines content.toList, fun lines areLines => ?_⟩
  rw [readAs areLines]
  refine ⟨?_, fun messages => readFrom_eq_ok_iff, fun error => readFrom_eq_error_iff,
    fun number cause fault => ⟨fun path => rfl, ?_⟩⟩
  · simp only [readFrom_eq_ok_iff, exists_hold_iff]
  · intro other otherLines otherAre same
    rw [readAs otherAre]
    exact readFrom_eq_error_iff.mpr ⟨number, cause, fault.of_take_eq same, rfl⟩

def emptyMessage : Message :=
  ⟨.bytes [], .empty⟩

def faultyLines (behind : Char) : List (List Char) :=
  [['\u2003'], emptyMessage.toJson.print, ['x'], [behind]]

/-- The content with these lines, of which the first and the third end with a carriage return and a
line feed. -/
def faultyContent (behind : Char) : String :=
  String.ofList ('\u2003' :: '\r' :: '\n' :: emptyMessage.toJson.print ++
    ['\n', 'x', '\r', '\n', behind])

/-- The third line is reported, whatever stands on the fourth. -/
theorem readBytes_firstFault_thirdLine :
    Text.AreLines (faultyContent 'y').toList (faultyLines 'y') ∧
      FirstFault 1 (faultyLines 'y') 3 ⟨.noValue, 1, 1⟩ ∧
      (Text.AreLines (faultyContent '[').toList (faultyLines '[') ∧
        (faultyLines '[').take 3 = (faultyLines 'y').take 3) ∧
      readBytes (faultyContent 'y').toUTF8 = .error (.invalidLine 3 ⟨.noValue, 1, 1⟩) ∧
      readBytes (faultyContent '[').toUTF8 = .error (.invalidLine 3 ⟨.noValue, 1, 1⟩) := by
  have areLines (behind : Char) (noFeed : '\n' ∉ [behind]) :
      Text.AreLines (faultyContent behind).toList (faultyLines behind) := by
    refine ⟨[['\u2003', '\r'], emptyMessage.toJson.print, ['x', '\r']], [behind], ?_, noFeed, ?_,
      rfl⟩
    · decide
    · rw [faultyContent, String.toList_ofList]
      rfl
  have first := areLines 'y' (by decide)
  have second := areLines '[' (by decide)
  have fault : FirstFault 1 (faultyLines 'y') 3 ⟨.noValue, 1, 1⟩ := by
    refine ⟨[['\u2003'], emptyMessage.toJson.print], ['x'], [['y']], rfl, rfl, by decide, rfl, ?_⟩
    intro line among filled
    rcases List.mem_cons.mp among with rfl | among
    · exact absurd (by decide) filled
    · rw [List.mem_singleton.mp among]
      exact ⟨emptyMessage, Message.parse_compact (Metadata.fitsIn_nil 125 none)⟩
  obtain ⟨-, -, refused, others⟩ := (readBytes_firstFault (faultyContent 'y')).2 _ first
  exact ⟨first, fault, ⟨second, rfl⟩, (refused _).mpr ⟨3, _, fault, rfl⟩,
    (others 3 _ fault).2 _ _ second rfl⟩

end MessageFile
end GatewayTelemetry
