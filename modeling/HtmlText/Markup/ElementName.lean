/-!
# Names of elements

What an element does to the structure of a document depends on its name. The names are those of
HTML, or of the vocabularies for formulas and drawings that may be embedded in it.

## Main definitions

* `Vocabulary`, `ElementName`: a name together with where it comes from.
* Classes of names: `isSpecial`, `isHeading`, the scopes and the sets of elements whose end tags may
  be left out.
* `StartRole`, `EndRole`: what the tags of a body do.
-/

namespace HtmlText

/-- Where a name comes from. -/
inductive Vocabulary
  | html
  /-- Formulas. -/
  | math
  /-- Drawings. -/
  | svg
deriving Repr, DecidableEq

/-- The name of an element, in lower case. -/
structure ElementName where
  vocabulary : Vocabulary
  tag : String
deriving Repr, DecidableEq

namespace ElementName

/-- A name of HTML. -/
def html (tag : String) : ElementName := ⟨.html, tag⟩

/-- One of the given names of HTML. -/
def isHtmlIn (tags : List String) (name : ElementName) : Bool :=
  name.vocabulary = .html && tags.contains name.tag

/-! ### Classes of names -/

/-- Elements that generic end tags do not close. -/
def isSpecial : ElementName → Bool := isHtmlIn
  ["address", "applet", "area", "article", "aside", "base", "basefont", "bgsound", "blockquote",
    "body", "br", "button", "caption", "center", "col", "colgroup", "dd", "details", "dir", "div",
    "dl", "dt", "embed", "fieldset", "figcaption", "figure", "footer", "form", "frame",
    "frameset", "h1", "h2", "h3", "h4", "h5", "h6", "head", "header", "hgroup", "hr", "html",
    "iframe", "img", "input", "isindex", "li", "link", "listing", "main", "marquee", "menu",
    "meta", "nav", "noembed", "noframes", "noscript", "object", "ol", "p", "param", "plaintext",
    "pre", "script", "section", "select", "source", "style", "summary", "table", "tbody", "td",
    "template", "textarea", "tfoot", "th", "thead", "title", "tr", "track", "ul", "wbr", "xmp"]

/-- Headings. -/
def isHeading : ElementName → Bool := isHtmlIn ["h1", "h2", "h3", "h4", "h5", "h6"]

/-- Cells of a table. -/
def isCell : ElementName → Bool := isHtmlIn ["td", "th"]

/-- Elements of a formula that hold text. -/
def isMathText (name : ElementName) : Bool :=
  name.vocabulary = .math && ["mi", "mo", "mn", "ms", "mtext"].contains name.tag

/-- Elements of a drawing that hold HTML. -/
def isSvgHtml (name : ElementName) : Bool :=
  name.vocabulary = .svg && ["foreignobject", "desc", "title"].contains name.tag

/-! ### Scopes

The search for an open element ends at an element that bounds its scope. -/

/-- The bounds of the scope of most elements. -/
def boundsScope (name : ElementName) : Bool :=
  name.isHtmlIn ["applet", "caption", "html", "table", "td", "th", "marquee", "object",
    "template"] || name.isMathText || name.isSvgHtml

/-- The bounds of the scope of a list item. -/
def boundsItemScope (name : ElementName) : Bool :=
  name.boundsScope || name.isHtmlIn ["ol", "ul"]

/-- The bounds of the scope of a paragraph. -/
def boundsParagraphScope (name : ElementName) : Bool :=
  name.boundsScope || name.isHtmlIn ["button"]

/-- The bounds of the scope of the parts of a table. -/
def boundsTableScope : ElementName → Bool := isHtmlIn ["html", "table", "template"]

/-- The bounds of the scope of a selection. -/
def boundsSelectScope (name : ElementName) : Bool := !name.isHtmlIn ["optgroup", "option"]

/-! ### End tags that may be left out -/

/-- Elements that end where their parent ends. -/
def hasImpliedEnd : ElementName → Bool := isHtmlIn
  ["dd", "dt", "li", "option", "optgroup", "p", "rb", "rp", "rt", "rtc"]

/-- Elements that end where a template ends. -/
def hasImpliedEndInTemplate (name : ElementName) : Bool :=
  name.hasImpliedEnd || name.isHtmlIn
    ["caption", "colgroup", "tbody", "td", "tfoot", "th", "thead", "tr"]

/-- Elements that may be open at the end of a document. -/
def mayStayOpen : ElementName → Bool := isHtmlIn
  ["dd", "dt", "li", "optgroup", "option", "p", "rp", "rt", "tbody", "td", "tfoot", "th", "thead",
    "tr", "body", "html"]

/-! ### Tables -/

/-- Elements of a table that hold no text. -/
def isTableFrame : ElementName → Bool := isHtmlIn ["table", "tbody", "tfoot", "thead", "tr"]

/-- Elements that hold rows, and the bounds of the search for one. -/
def holdsRows : ElementName → Bool := isHtmlIn ["tbody", "tfoot", "thead", "template", "html"]

/-- Elements that hold cells, and the bounds of the search for one. -/
def holdsCells : ElementName → Bool := isHtmlIn ["tr", "template", "html"]

end ElementName

/-- Elements that belong into the head and are kept wherever they are. -/
def isHeadContent (tag : String) : Bool :=
  ["base", "basefont", "bgsound", "link", "meta", "noframes", "script", "style", "template",
    "title"].contains tag

/-- Tags of the parts of a table, which mean nothing outside one. -/
def isTablePart (tag : String) : Bool :=
  ["caption", "col", "colgroup", "tbody", "td", "tfoot", "th", "thead", "tr"].contains tag

/-- What a start tag does in a body. -/
inductive StartRole
  | html
  | headContent
  | body
  | frameset
  /-- A block that ends a paragraph. -/
  | block
  | heading
  /-- A block whose first line feed does not count. -/
  | preformatted
  | form
  /-- A list item, or a part of a list of definitions. -/
  | item
  | plaintext
  | button
  | anchor
  /-- An element that goes on in the next block. -/
  | formatting
  | nobr
  /-- An element that formatting does not reach into. -/
  | object
  | table
  /-- An element without content. -/
  | void
  /-- An element without content that does not show. -/
  | part
  | rule
  | image
  | textarea
  | example
  | iframe
  /-- An element with raw text. -/
  | rawText
  | select
  | option
  | rubyBase
  | rubyText
  | math
  | svg
  /-- A tag that means nothing here. -/
  | stray
  | other
deriving Repr, DecidableEq

/-- The roles of start tags in a body, for all tags with a role of their own. -/
def StartRole.roles : List (StartRole × List String) := [
  (.html, ["html"]),
  (.body, ["body"]),
  (.frameset, ["frameset"]),
  (.block, ["address", "article", "aside", "blockquote", "center", "details", "dialog", "dir",
    "div", "dl", "fieldset", "figcaption", "figure", "footer", "header", "hgroup", "main", "menu",
    "nav", "ol", "p", "search", "section", "summary", "ul"]),
  (.heading, ["h1", "h2", "h3", "h4", "h5", "h6"]),
  (.preformatted, ["pre", "listing"]),
  (.form, ["form"]),
  (.item, ["li", "dd", "dt"]),
  (.plaintext, ["plaintext"]),
  (.button, ["button"]),
  (.anchor, ["a"]),
  (.formatting, ["b", "big", "code", "em", "font", "i", "s", "small", "strike", "strong", "tt",
    "u"]),
  (.nobr, ["nobr"]),
  (.object, ["applet", "marquee", "object"]),
  (.table, ["table"]),
  (.void, ["area", "br", "embed", "img", "keygen", "wbr", "input"]),
  (.part, ["param", "source", "track"]),
  (.rule, ["hr"]),
  (.image, ["image"]),
  (.textarea, ["textarea"]),
  (.example, ["xmp"]),
  (.iframe, ["iframe"]),
  (.rawText, ["noembed", "noscript"]),
  (.select, ["select"]),
  (.option, ["optgroup", "option"]),
  (.rubyBase, ["rb", "rtc"]),
  (.rubyText, ["rp", "rt"]),
  (.math, ["math"]),
  (.svg, ["svg"]),
  (.stray, ["caption", "col", "colgroup", "frame", "head", "tbody", "td", "tfoot", "th", "thead",
    "tr"])]

/-- The role of a start tag in a body. -/
def StartRole.ofTag (tag : String) : StartRole :=
  if isHeadContent tag then .headContent
  else ((StartRole.roles.find? fun entry => entry.2.contains tag).map (·.1)).getD .other

/-- What an end tag does in a body. -/
inductive EndRole
  | template
  | body
  | html
  | block
  | form
  | paragraph
  | item
  | heading
  | formatting
  | object
  /-- A line break, which has no end tag. -/
  | lineBreak
  | other
deriving Repr, DecidableEq

/-- The role of an end tag in a body. -/
def EndRole.ofTag (tag : String) : EndRole :=
  if tag = "template" then .template
  else if tag = "body" then .body
  else if tag = "html" then .html
  else if tag = "p" then .paragraph
  else if tag = "form" then .form
  else if tag = "br" then .lineBreak
  else
    match StartRole.ofTag tag with
    | .block | .preformatted | .button => .block
    | .item => .item
    | .heading => .heading
    | .anchor | .formatting | .nobr => .formatting
    | .object => .object
    | _ => .other

end HtmlText
