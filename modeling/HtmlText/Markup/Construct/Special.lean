import HtmlText.Markup.Construct.Table

/-!
# Rules for selections, templates and foreign content

Selections take only their options, templates take whatever their first tag calls for, and formulas
and drawings take anything until a tag comes up that can only be HTML.

## Main definitions

* `Builder.selectRules`, `Builder.selectInTableRules`: the rules in a selection.
* `Builder.templateRules`: the rules in a template.
* `Builder.foreignRules`: the rules in a formula or drawing, which call on other rules in some
  cases.
-/

namespace HtmlText

namespace Builder

/-! ### Selections -/

/-- Close the selection. -/
def closeSelect (b : Builder) : Builder :=
  let b := b.popThrough (· = .html "select")
  { b with mode := b.fittingMode }

/-- Whether a selection is in scope. -/
def inSelectScope (b : Builder) : Bool := b.inScope (·.boundsSelectScope) "select"

/-- A start tag in a selection. -/
def selectStart (b : Builder) (t : Tag) : Step :=
  let endOption (b : Builder) : Builder := if b.currentIn ["option"] then b.pop else b
  if t.name = "html" then b.htmlStart t
  else if t.name = "option" then ((endOption b).insertTag t).done
  else if t.name = "optgroup" then
    let b := endOption b
    ((if b.currentIn ["optgroup"] then b.pop else b).insertTag t).done
  else if t.name = "hr" then
    let b := endOption b
    ((if b.currentIn ["optgroup"] then b.pop else b).insertVoid t).acknowledged
  else if t.name = "select" then
    (if b.inSelectScope then b.unexpected.closeSelect else b.unexpected).done
  else if ["input", "keygen", "textarea"].contains t.name then
    if b.inSelectScope then b.unexpected.closeSelect.again (.startTag t) else b.unexpected.done
  else if ["script", "template"].contains t.name then b.headContent t
  else b.unexpected.done

/-- An end tag in a selection. -/
def selectEnd (b : Builder) (t : Tag) : Step :=
  if t.name = "optgroup" then
    let inGroup : Bool := match b.stack with
      | e :: around :: _ => e.name = .html "option" && around.name = .html "optgroup"
      | _ => false
    let b := if inGroup then b.pop else b
    (if b.currentIn ["optgroup"] then b.pop else b.unexpected).done
  else if t.name = "option" then (if b.currentIn ["option"] then b.pop else b.unexpected).done
  else if t.name = "select" then
    (if b.inSelectScope then b.closeSelect else b.unexpected).done
  else if t.name = "template" then b.templateEnd
  else b.unexpected.done

/-- The rules in a selection. -/
def selectRules (b : Builder) (t : Token) : Step :=
  match t with
  | .null => b.unexpected.done
  | .text cs => (b.insertText cs).done
  | .comment s => (b.insertComment s).done
  | .startTag tag => b.selectStart tag
  | .endTag tag => b.selectEnd tag
  | .sourceEnd => b.bodyRules t
  | .doctype _ => b.done

/-- The tags of a table that end a selection inside it. -/
def endsSelect (tag : String) : Bool :=
  ["caption", "table", "tbody", "tfoot", "thead", "tr", "td", "th"].contains tag

/-- The rules in a selection inside a table. -/
def selectInTableRules (b : Builder) (t : Token) : Step :=
  match t with
  | .startTag tag =>
    if endsSelect tag.name then b.unexpected.closeSelect.again t else b.selectRules t
  | .endTag tag =>
    if endsSelect tag.name then
      if b.inTableScope tag.name then b.unexpected.closeSelect.again t else b.unexpected.done
    else b.selectRules t
  | _ => b.selectRules t

/-! ### Templates -/

/-- The rules that a start tag calls for in a template. -/
def templateModeFor (tag : String) : ConstructMode :=
  if ["caption", "colgroup", "tbody", "tfoot", "thead"].contains tag then .inTable
  else if tag = "col" then .inColumnGroup
  else if tag = "tr" then .inTableBody
  else if ["td", "th"].contains tag then .inRow
  else .inBody

/-- The rules in a template. -/
def templateRules (b : Builder) (t : Token) : Step :=
  match t with
  | .text _ | .comment _ => b.bodyRules t
  | .startTag tag =>
    if isHeadContent tag.name then b.headContent tag
    else
      let mode := templateModeFor tag.name
      { b with templateModes := mode :: b.templateModes.tail }.againIn mode t
  | .endTag tag => if tag.name = "template" then b.templateEnd else b.unexpected.done
  | .sourceEnd => b.sourceEndInTemplate
  | _ => b.unexpected.done

/-! ### Formulas and drawings -/

/-- Whether a token belongs to a formula or drawing and not to HTML inside it. -/
def isForeign (b : Builder) (t : Token) : Bool :=
  let name := b.contextName
  match t with
  | .sourceEnd => false
  | .null | .text _ => b.inForeign && !name.isMathText && !name.isSvgHtml
  | .startTag tag =>
    b.inForeign && !(name.isMathText && !List.contains ["mglyph", "malignmark"] tag.name) &&
      !name.isSvgHtml && !(name = ⟨.math, "annotation-xml"⟩ && tag.name = "svg")
  | _ => b.inForeign

/-- The tags that can only be HTML. -/
def breaksOut (t : Tag) : Bool :=
  ["b", "big", "blockquote", "body", "br", "center", "code", "dd", "div", "dl", "dt", "em",
    "embed", "h1", "h2", "h3", "h4", "h5", "h6", "head", "hr", "i", "img", "li", "listing",
    "menu", "meta", "nobr", "ol", "p", "pre", "ruby", "s", "small", "span", "strong", "strike",
    "sub", "sup", "table", "tt", "u", "ul", "var"].contains t.name ||
    (t.name = "font" && ["color", "face", "size"].any fun name => (t.attribute? name).isSome)

/-- Close the formula or drawing up to HTML, or up to an element that holds HTML. -/
def leaveForeign (b : Builder) : Builder :=
  b.unexpected.popWhile fun name =>
    !(name.vocabulary = .html || name.isMathText || name.isSvgHtml)

/-- Where the search for the element of an end tag in a formula or drawing ends. -/
inductive ForeignEnd
  /-- The element is found; these are the elements around it. -/
  | found (around : List OpenElement)
  /-- The search comes to HTML. -/
  | html
  /-- There is no such element. -/
  | missing
deriving Repr, DecidableEq

/-- The search for the element of an end tag through open elements, innermost first. The outermost
one is never closed. -/
def findForeign (tag : String) (innermost : Bool) : List OpenElement → ForeignEnd
  | [] | [_] => .missing
  | e :: stack =>
    if !innermost && e.name.vocabulary = .html then .html
    else if e.name.tag = tag then .found stack
    else findForeign tag false stack

/-- The rules in a formula or drawing; `rules` are the ones of the mode. -/
def foreignRules (b : Builder) (rules : Builder → Token → Step) (t : Token) : Step :=
  match t with
  | .null => (b.unexpected.insertText [Reference.replacement]).done
  | .text cs => ((if isBlankRun cs then b else b.forbidFrameset).insertText cs).done
  | .comment s => (b.insertComment s).done
  | .startTag tag =>
    if breaksOut tag then rules b.leaveForeign t
    else b.insertForeign b.contextName.vocabulary tag
  | .endTag tag =>
    if ["br", "p"].contains tag.name then rules b.leaveForeign t
    else
      let b' := if b.current.name.tag = tag.name || b.stack.length ≤ 1 then b else b.unexpected
      match findForeign tag.name true b.stack with
      | .found around => { b' with stack := around }.done
      | .html => rules b' t
      | .missing => b'.done
  | _ => b.done

end Builder

end HtmlText
