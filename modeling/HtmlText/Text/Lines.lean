import HtmlText.Text.Pieces

/-!
# Lines of a text

A text is a sequence of lines separated by line feeds, so that a text with `n` line feeds has
`n + 1` lines and the empty text has one empty line.

## Main definitions

* `lines`, `unlines`: from a text to its lines and back.
* `indent`: one tab in front of every line.
* `unifyLineEnds`: carriage returns, alone or before a line feed, become line feeds.
-/

namespace HtmlText

/-- The lines of a text. -/
def lines (cs : List Char) : List (List Char) := pieces '\n' cs

/-- The text with the given lines. -/
def unlines (ls : List (List Char)) : List Char := ['\n'].intercalate ls

/-- One tab in front of every line, the empty ones included. -/
def indent (s : String) : String :=
  String.ofList (unlines ((lines s.toList).map ('\t' :: ·)))

/-- Every pair of carriage return and line feed, and every other carriage return, as one line
feed. -/
def unifyLineEndChars : List Char → List Char
  | [] => []
  | '\r' :: '\n' :: cs => '\n' :: unifyLineEndChars cs
  | c :: cs => (if c = '\r' then '\n' else c) :: unifyLineEndChars cs

/-- A text with line feeds as its only line ends. -/
def unifyLineEnds (s : String) : String := String.ofList (unifyLineEndChars s.toList)

/-! ### Lines and texts -/

theorem lines_ne_nil (cs : List Char) : lines cs ≠ [] := pieces_ne_nil '\n' cs

/-- A text is put together again from its lines. -/
theorem unlines_lines (cs : List Char) : unlines (lines cs) = cs := intercalate_pieces '\n' cs

end HtmlText
