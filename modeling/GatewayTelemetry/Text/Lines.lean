/-!
# Physical lines

A line ends at a line feed, and one carriage return directly before that line feed belongs to the
line end. A text that ends with a line feed has no further empty line; an unterminated last line
keeps a trailing carriage return.
-/

namespace GatewayTelemetry
namespace Text

def lines : List Char → List (List Char)
  | [] => []
  | '\n' :: text => [] :: lines text
  | '\r' :: '\n' :: text => [] :: lines text
  | c :: text =>
    match lines text with
    | [] => [[c]]
    | line :: rest => (c :: line) :: rest

theorem lines_append_crlf {line : List Char} (noFeed : '\n' ∉ line) (text : List Char) :
    lines (line ++ '\r' :: '\n' :: text) = line :: lines text := by
  induction line with
  | nil => simp [lines]
  | cons c line ih =>
    have plain : c ≠ '\n' := fun same => noFeed (same ▸ List.mem_cons_self)
    have rest := ih fun present => noFeed (List.mem_cons_of_mem c present)
    have notFeed : ∀ later, line ++ '\r' :: '\n' :: text ≠ '\n' :: later := by
      intro later same
      cases line with
      | nil => simp at same
      | cons d line => exact noFeed (by simp at same; simp [same.1])
    rw [List.cons_append, lines, rest]
    · exact plain
    · intro later _ same
      exact notFeed later same

/-- A line feed ends a line, unless a carriage return before it belongs to the line end. -/
theorem lines_append_lf {line : List Char} (noFeed : '\n' ∉ line)
    (noReturn : line.getLast? ≠ some '\r') (text : List Char) :
    lines (line ++ '\n' :: text) = line :: lines text := by
  induction line with
  | nil => simp [lines]
  | cons c line ih =>
    have plain : c ≠ '\n' := fun same => noFeed (same ▸ List.mem_cons_self)
    cases line with
    | nil =>
      have other : c ≠ '\r' := by simpa using noReturn
      simp only [List.cons_append, List.nil_append]
      rw [lines]
      · simp [lines]
      · exact plain
      · intro later same _
        exact other same
    | cons d line =>
      have rest := ih (fun present => noFeed (List.mem_cons_of_mem c present))
        (by simpa using noReturn)
      have notFeed : d ≠ '\n' := fun same => noFeed (same ▸ by simp)
      rw [List.cons_append, lines, rest]
      · exact plain
      · intro later _ same
        exact notFeed (by simp at same; exact same.1)

end Text
end GatewayTelemetry
