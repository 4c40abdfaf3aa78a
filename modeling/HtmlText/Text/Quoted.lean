import HtmlText.Text.CodeRange
import HtmlText.Text.UnseenTable

/-!
# Quoted text

A text in quotes stands on one line and shows every character: what would not show is written by
its code point, and what would end the quotes or the line is written by a letter.

## Main definitions

* `quotedChar`: a character as it is written inside quotes.
* `quoted`: a text in quotes.
-/

namespace HtmlText

/-- A character that does not show. -/
def isUnseen (c : Char) : Bool := inRanges unseenRanges c.toNat

/-- The letters that stand for characters behind a backslash. -/
def escapeLetters : List (Char × Char) :=
  [('\x00', '0'), ('\t', 't'), ('\r', 'r'), ('\n', 'n'), ('\\', '\\'), ('"', '"')]

/-- A character as it is written inside quotes. -/
def quotedChar (c : Char) : List Char :=
  match escapeLetters.lookup c with
  | some letter => ['\\', letter]
  | none =>
    if isUnseen c then ['\\', 'u', '\x7b'] ++ Nat.toDigits 16 c.toNat ++ ['\x7d'] else [c]

/-- A text in quotes. -/
def quoted (s : String) : String := String.ofList ('"' :: s.toList.flatMap quotedChar ++ ['"'])

end HtmlText
