import HtmlText.Page
import HtmlText.Render

/-!
# Converting HTML to text

A converter holds options and rules. It turns a source into text, or refuses a malformed one if it
is strict. Nothing that it converts changes it.

## Main definitions

* `Converter`: options and rules.
* `Converter.render`: the text of a tree.
* `Converter.convert`: the text of a source.
-/

namespace HtmlText

/-- Options and rules for converting sources. -/
structure Converter where
  options : Options := {}
  rules : Rules := .builtin
deriving Repr, DecidableEq

namespace Converter

/-- Render a tag, named in any case, by a rule. -/
def addRule (c : Converter) (tag : String) (rule : Rule) : Converter :=
  { c with rules := c.rules.add tag rule }

/-- The text of a tree. -/
def render (c : Converter) (t : Tree) : String := t.toText c.rules c.options

/-- The tree to render: in strict conversion, the one of a page without diagnostics. -/
def accept (c : Converter) (page : Page) : Except Malformed Tree :=
  if c.options.strict then page.wellFormed else .ok page.tree

/-- The text of a source. A blank source is not looked at any further. -/
def convert (c : Converter) (html : String) : Except Malformed String :=
  if isBlankText html then .ok ""
  else
    match c.accept (.ofSource (normalize html)) with
    | .ok t => .ok (c.render t)
    | .error e => .error e

end Converter

end HtmlText
