/-!
# Lines of text

A text that is written with a line feed after it may hold line feeds itself, and is
then read as several lines.  `lines` are those.  A carriage return right before a line
feed belongs to the end of the line.  No other character ends a line.
-/

namespace FlashDump.Text

/-- Cut a text at its line feeds.  The characters since the last one come first, in
reverse. -/
def cutFrom (before : List Char) : List Char → List (List Char)
  | [] => [before.reverse]
  | c :: rest =>
      if c = '\n' then before.reverse :: cutFrom [] rest else cutFrom (c :: before) rest

/-- Cut a text at its line feeds. -/
def cut (text : List Char) : List (List Char) := cutFrom [] text

/-- A line without the carriage return at its end. -/
def dropReturn (line : List Char) : List Char :=
  if line.getLast? = some '\r' then line.dropLast else line

/-- The lines that a text takes when a line feed is written after it. -/
def lines (text : String) : List String :=
  (cut text.toList).map fun line => String.ofList (dropReturn line)

example : lines "one" = ["one"] := by decide
example : lines "" = [""] := by decide
example : lines "one\n" = ["one", ""] := by decide
example : lines "\n\nthree" = ["", "", "three"] := by decide
example : lines "one\r\ntwo\r" = ["one", "two"] := by decide
example : lines "o\rne\r\r" = ["o\rne\r"] := by decide

/-! ## A text that is one line -/

theorem cutFrom_of_not_mem (before : List Char) {text : List Char} (h : '\n' ∉ text) :
    cutFrom before text = [before.reverse ++ text] := by
  induction text generalizing before with
  | nil => simp [cutFrom]
  | cons c rest ih =>
    obtain ⟨other, h⟩ := List.ne_and_not_mem_of_not_mem_cons h
    simp [cutFrom, Ne.symm other, ih _ h]

/-- A text without an end of line is one line. -/
theorem lines_of_not_mem {text : String} (feed : '\n' ∉ text.toList)
    (ret : '\r' ∉ text.toList) : lines text = [text] := by
  have last : text.toList.getLast? ≠ some '\r' := fun h => ret (List.mem_of_getLast? h)
  simp [lines, cut, cutFrom_of_not_mem _ feed, dropReturn, last]

end FlashDump.Text
