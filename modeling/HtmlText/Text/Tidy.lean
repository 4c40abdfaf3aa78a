import HtmlText.Text.Lines

/-!
# The final whitespace pass

Rendering leaves tabs in front of indented lines, and spaces wherever the source had blanks. The
final pass works line by line. The margin of a line is its longest run of leading spaces and tabs:
its spaces are dropped and its tabs kept. Spaces at the end of the line are dropped. Every tab that
is left is written as spaces. At last the empty lines at both ends of the text are removed.

## Main definitions

* `tidyLine`: one line.
* `tidy`: a whole text.
-/

namespace HtmlText

/-- A character of the margin of a line. -/
def isMarginChar (c : Char) : Bool := c = ' ' || c = '\t'

/-- A list without the elements at its end that satisfy `p`. -/
def dropEndWhile {α : Type} (p : α → Bool) (xs : List α) : List α :=
  (xs.reverse.dropWhile p).reverse

/-- Every tab as `width` spaces. -/
def expandTabs (width : Nat) (cs : List Char) : List Char :=
  cs.flatMap fun c => if c = '\t' then List.replicate width ' ' else [c]

/-- One line without the spaces of its margin and at its end, its tabs as spaces. -/
def tidyLine (width : Nat) (line : List Char) : List Char :=
  expandTabs width
    ((line.takeWhile isMarginChar).filter (· = '\t') ++
      dropEndWhile (· = ' ') (line.dropWhile isMarginChar))

/-- A text without line feeds at its ends. -/
def trimLineFeeds (cs : List Char) : List Char :=
  dropEndWhile (· = '\n') (cs.dropWhile (· = '\n'))

/-- The final whitespace pass with `width` spaces for each tab. -/
def tidy (width : Nat) (s : String) : String :=
  String.ofList (trimLineFeeds (unlines ((lines s.toList).map (tidyLine width))))

end HtmlText
