/-!
# Problems of a source

The parser repairs every source. Each repair is a problem, and the problems are kept in the order
in which they come up.

## Main definitions

* `Problem`: the kinds of problems.
* `Problem.message`: their texts.
-/

namespace HtmlText

/-- What may be wrong with a source. -/
inductive Problem
  /-- A character that does not belong where it stands. -/
  | badCharacter
  /-- The source ends inside a tag, a comment or another declaration. -/
  | unexpectedEnd
  | duplicateAttribute
  | attributesOnEndTag
  | selfClosingEndTag
  /-- A start tag is marked as self-closing, but its element is not. -/
  | unacknowledgedSelfClosing
  /-- A numeric reference to something that is no character of a text. -/
  | invalidNumber
  | numberWithoutSemicolon
  | numberWithoutDigits
  | endAfterNumberSign
  | endInNumber
  /-- A named reference that may stand without a semicolon, but should not. -/
  | nameWithoutSemicolon
  | unknownName
  | badDoctype
  | strayDoctype
  | unexpectedToken
  | noParagraphToClose
  | noMatchingTagToClose
  | noHeadingToClose
  | wrongHeadingClosed
  | nestedHeadings
  /-- An end tag closes other elements too. -/
  | unexpectedOpenElement
  /-- An end tag meets an element that it must not close. -/
  | specialElementInTheWay
  | formattingNotOpen
  | formattingNotInScope
  | formattingNotCurrent
  | nestedNobr
  | nestedButtons
  | nestedForms
  | noFormToClose
  | formNotInScope
  | formNotCurrent
  | textInTable
  | charactersInTable
  | cellNotCurrent
  | bodyEndWithoutBody
  | htmlEndWithoutBody
  | elementOpenAtEnd
deriving Repr, DecidableEq

/-- The text of a problem. -/
def Problem.message : Problem → String
  | badCharacter => "Bad character"
  | unexpectedEnd => "Unexpected EOF"
  | duplicateAttribute => "Duplicate attribute"
  | attributesOnEndTag => "Attributes on an end tag"
  | selfClosingEndTag => "Self-closing end tag"
  | unacknowledgedSelfClosing => "Unacknowledged self-closing tag"
  | invalidNumber => "Invalid numeric character reference"
  | numberWithoutSemicolon => "Semicolon missing after numeric character reference"
  | numberWithoutDigits => "Numeric character reference without digits"
  | endAfterNumberSign => "EOF after '#' in character reference"
  | endInNumber => "EOF in numeric character reference"
  | nameWithoutSemicolon => "Character reference does not end with semicolon"
  | unknownName => "Invalid character reference"
  | badDoctype => "Bad DOCTYPE"
  | strayDoctype => "DOCTYPE in body"
  | unexpectedToken => "Unexpected token"
  | noParagraphToClose => "No <p> tag to close"
  | noMatchingTagToClose => "No matching tag to close"
  | noHeadingToClose => "No heading tag to close"
  | wrongHeadingClosed => "Closing wrong heading tag"
  | nestedHeadings => "nested heading tags"
  | unexpectedOpenElement => "Unexpected open element"
  | specialElementInTheWay => "Found special tag while closing generic tag"
  | formattingNotOpen => "Formatting element not open"
  | formattingNotInScope => "Formatting element not in scope"
  | formattingNotCurrent => "Formatting element not current node"
  | nestedNobr => "Nested <nobr>"
  | nestedButtons => "nested buttons"
  | nestedForms => "nested forms"
  | noFormToClose => "Null form element pointer on </form>"
  | formNotInScope => "Form element not in scope on </form>"
  | formNotCurrent => "Bad open element on </form>"
  | textInTable => "Non-space table text"
  | charactersInTable => "Unexpected characters in table"
  | cellNotCurrent => "expected to close <td> or <th> with cell"
  | bodyEndWithoutBody => "</body> with no <body> in scope"
  | htmlEndWithoutBody => "</html> with no <body> in scope"
  | elementOpenAtEnd => "Unexpected open tag at end of body"

end HtmlText
