import HtmlText.Text.CodeRange

/-!
# Blank characters

Two notions of blank are at work. Whether an input has any content is asked of all characters with
the Unicode property `White_Space`. Inside a document only the five blanks of HTML source are
interchangeable, so that a no-break space is content.

## Main definitions

* `isUnicodeBlank`: the property `White_Space`.
* `isMarkupBlank`: space, tab, line feed, form feed and carriage return.
* `isBlankText`: a text without content.
-/

namespace HtmlText

/-- The ranges of characters with the property `White_Space`. -/
def unicodeBlankRanges : List (Nat × Nat) := [
  (0x9, 0xD), (0x20, 0x20), (0x85, 0x85), (0xA0, 0xA0), (0x1680, 0x1680), (0x2000, 0x200A),
  (0x2028, 0x2029), (0x202F, 0x202F), (0x205F, 0x205F), (0x3000, 0x3000)]

/-- A character with the property `White_Space`. -/
def isUnicodeBlank (c : Char) : Bool := inRanges unicodeBlankRanges c.toNat

/-- A blank of HTML source: space, tab, line feed, form feed or carriage return. -/
def isMarkupBlank (c : Char) : Bool :=
  c = ' ' || c = '\t' || c = '\n' || c = '\x0c' || c = '\r'

/-- A text of `White_Space` characters only, the empty text included. -/
def isBlankText (s : String) : Bool := s.toList.all isUnicodeBlank

/-- Every blank of HTML source has the property `White_Space`. -/
theorem isUnicodeBlank_of_isMarkupBlank {c : Char} (h : isMarkupBlank c = true) :
    isUnicodeBlank c = true := by
  simp only [isMarkupBlank, Bool.or_eq_true, decide_eq_true_eq] at h
  rcases h with (((rfl | rfl) | rfl) | rfl) | rfl <;> decide

end HtmlText
