import HtmlText.Markup.Construct.Head

/-!
# Rules for the body

The rules for the content of a body, and for what comes inside formulas and drawings.

## Main definitions

* `Builder.bodyText`: text.
* `Builder.bodyStart`: start tags, by their roles.
* `Builder.bodyEnd`: end tags, by their roles.
* `Builder.bodyRules`: the rules for all tokens.
-/

namespace HtmlText

namespace Builder

/-- Text of a body. -/
def bodyText (b : Builder) (cs : List Char) : Builder :=
  let b := b.reconstruct
  (if isBlankRun cs then b else b.forbidFrameset).insertText cs

/-! ### Formulas and drawings -/

/-- The attributes of formulas and drawings that have a vocabulary of their own count without its
abbreviation. -/
def foreignAttribute (name : String) : String :=
  if ["xlink:actuate", "xlink:arcrole", "xlink:href", "xlink:role", "xlink:show", "xlink:title",
    "xlink:type"].contains name then String.ofList (name.toList.drop 6)
  else if ["xml:lang", "xml:space"].contains name then
    String.ofList (name.toList.drop 4)
  else if name = "xmlns:xlink" then "xlink"
  else name

/-- Insert an element of a formula or drawing; a self-closing tag is honoured. -/
def insertForeign (b : Builder) (vocabulary : Vocabulary) (t : Tag) : Step :=
  let attributes := t.attributes.map fun (name, value) => (foreignAttribute name, value)
  if t.selfClosing then (b.insertClosed ⟨vocabulary, t.name⟩ attributes).1.acknowledged
  else (b.insertOpen ⟨vocabulary, t.name⟩ attributes).1.done

/-! ### Start tags -/

/-- A frameset takes the place of a body that has no content yet. -/
def framesetInBody (b : Builder) (t : Tag) : Builder :=
  let b := b.unexpected
  match b.body? with
  | some body =>
    if b.framesetAllowed then
      let b := { b with draft := b.draft.detach body.id, stack := b.root?.toList }
      { b.insertTag t with mode := .inFrameset }
    else b
  | none => b

/-- A start tag of the body, which is there already, can only add attributes to it. -/
def bodyStartAgain (b : Builder) (t : Tag) : Builder :=
  let b := b.unexpected
  if b.body?.isSome && !b.hasOpen "template" then
    b.forbidFrameset.completeAttributes b.body? t
  else b

/-- Insert and open a form, unless one is open already. Forms in templates are not counted. -/
def insertForm (b : Builder) (t : Tag) : Builder :=
  let inTemplate := b.hasOpen "template"
  if b.form.isSome && !inTemplate then b.report .nestedForms
  else
    let (b, id) := b.endParagraph.insertOpen (.html t.name) t.attributes
    if inTemplate then b else { b with form := some id }

/-- The open item that a new item with the given tag ends, if no special element is in between. -/
def itemToEnd (tag : String) : List OpenElement → Option String
  | [] => none
  | e :: stack =>
    let ends := if tag = "li" then ["li"] else ["dd", "dt"]
    if e.name.isHtmlIn ends then some e.name.tag
    else if e.name.isSpecial && !e.name.isHtmlIn ["address", "div", "p"] then none
    else itemToEnd tag stack

/-- A list item begins. -/
def insertItem (b : Builder) (t : Tag) : Builder :=
  let b := b.forbidFrameset
  let b := match itemToEnd t.name b.stack with
    | some tag => (b.closeImpliedExcept tag).close tag
    | none => b
  b.endParagraph.insertTag t

/-- A button begins. Buttons do not nest. -/
def insertButton (b : Builder) (t : Tag) : Builder :=
  let b :=
    if b.inScope (·.boundsScope) "button" then
      (b.report .nestedButtons).closeImplied.popThrough (· = .html "button")
    else b
  (b.reconstruct.insertTag t).forbidFrameset

/-- A `nobr` begins. They do not nest. -/
def insertNobr (b : Builder) (t : Tag) : Builder :=
  let b := b.reconstruct
  let b :=
    if b.inScope (·.boundsScope) "nobr" then
      ((b.report .nestedNobr).closeFormatting "nobr").reconstruct
    else b
  b.insertFormatting t

/-- An input that does not show. -/
def isHiddenInput (t : Tag) : Bool :=
  match t.attribute? "type" with
  | some type => type.toList.map lowerAscii = "hidden".toList
  | none => false

/-- An element without content. All but hidden inputs rule out a frameset. -/
def insertBodyVoid (b : Builder) (t : Tag) : Step :=
  let b := b.reconstruct.insertVoid t
  (if t.name = "input" && isHiddenInput t then b else b.forbidFrameset).acknowledged

/-- A selection begins, in a table under stricter rules. -/
def insertSelect (b : Builder) (t : Tag) : Builder :=
  let b := (b.reconstruct.insertTag t).forbidFrameset
  let inTable := [.inTable, .inCaption, .inTableBody, .inRow, .inCell].contains b.mode
  { b with mode := if inTable then .inSelectInTable else .inSelect }

/-- The base or the container of a ruby annotation. -/
def insertRubyBase (b : Builder) (t : Tag) : Builder :=
  let b := if b.inScope (·.boundsScope) "ruby" then b.closeImplied else b
  (if b.currentIn ["ruby"] then b else b.unexpected).insertTag t

/-- The text of a ruby annotation. -/
def insertRubyText (b : Builder) (t : Tag) : Builder :=
  let b := if b.inScope (·.boundsScope) "ruby" then b.closeImpliedExcept "rtc" else b
  (if b.currentIn ["rtc", "ruby"] then b else b.unexpected).insertTag t

/-- A start tag in a body. -/
def bodyStart (b : Builder) (t : Tag) : Step :=
  match StartRole.ofTag t.name with
  | .html => b.htmlStart t
  | .headContent => b.headContent t
  | .body => (b.bodyStartAgain t).done
  | .frameset => (b.framesetInBody t).done
  | .block => (b.endParagraph.insertTag t).done
  | .heading =>
    let b := b.endParagraph
    let b := if b.current.name.isHeading then (b.report .nestedHeadings).pop else b
    (b.insertTag t).done
  | .preformatted =>
    { (b.endParagraph.insertTag t).forbidFrameset with dropLineFeed := true }.done
  | .form => (b.insertForm t).done
  | .item => (b.insertItem t).done
  | .plaintext => { b.endParagraph.insertTag t with textMode := .plain }.acknowledged
  | .button => (b.insertButton t).done
  | .anchor => (b.endAnchor.reconstruct.insertFormatting t).done
  | .formatting => (b.reconstruct.insertFormatting t).done
  | .nobr => (b.insertNobr t).done
  | .object => ((b.reconstruct.insertTag t).markFormatting.forbidFrameset).done
  | .table =>
    -- In the old layout a paragraph may have a table in it.
    let b := if b.oldLayout then b else b.endParagraph
    ((b.insertTag t).forbidFrameset).doneIn .inTable
  | .void => b.insertBodyVoid t
  | .part => (b.insertVoid t).acknowledged
  | .rule => ((b.endParagraph.insertVoid t).forbidFrameset).acknowledged
  | .image => b.unexpected.insertBodyVoid { t with name := "img" }
  | .textarea =>
    { b.forbidFrameset with dropLineFeed := true }.beginRawText t (.escapable t.name)
  | .example => b.endParagraph.reconstruct.forbidFrameset.beginRawText t (.raw t.name)
  | .iframe => b.forbidFrameset.beginRawText t (.raw t.name)
  | .rawText => b.beginRawText t (.raw t.name)
  | .select => (b.insertSelect t).done
  | .option => ((if b.currentIn ["option"] then b.pop else b).reconstruct.insertTag t).done
  | .rubyBase => (b.insertRubyBase t).done
  | .rubyText => (b.insertRubyText t).done
  | .math => b.insertForeign .math t
  | .svg => b.insertForeign .svg t
  | .stray => b.unexpected.done
  | .other => (b.reconstruct.insertTag t).done

/-! ### End tags -/

/-- The end tag of an element that has to be in scope. -/
def closeInScope (b : Builder) (tag : String) : Builder :=
  if b.inScope (·.boundsScope) tag then b.closeImplied.close tag else b.unexpected

/-- The end tag of a form. -/
def closeForm (b : Builder) : Builder :=
  if b.hasOpen "template" then
    if b.inScope (·.boundsScope) "form" then
      let b := b.closeImplied
      let b := if b.currentIn ["form"] then b else b.report .formNotCurrent
      b.popThrough (· = .html "form")
    else b.report .formNotInScope
  else
    match b.form with
    | none => b.report .noFormToClose
    | some id =>
      let b := { b with form := none }
      if findsInScope (·.boundsScope) (·.id = id) b.stack then
        let b := b.closeImplied
        -- What is open inside the form stays open.
        let closed := b.removeOpen id
        if b.current.id = id then closed else closed.report .formNotCurrent
      else b.report .formNotInScope

/-- The end tag of a list item. -/
def closeItem (b : Builder) (tag : String) : Builder :=
  let bounds (name : ElementName) : Bool :=
    if tag = "li" then name.boundsItemScope else name.boundsScope
  if b.inScope bounds tag then (b.closeImpliedExcept tag).close tag
  else b.report .noMatchingTagToClose

/-- The end tag of a heading ends the open heading, of whatever level. -/
def closeHeading (b : Builder) (tag : String) : Builder :=
  if findsInScope (·.boundsScope) (·.name.isHeading) b.stack then
    let b := b.closeImplied
    let b := if b.currentIn [tag] then b else b.report .wrongHeadingClosed
    b.popThrough (·.isHeading)
  else b.report .noHeadingToClose

/-- The end tag of a paragraph. If there is none, an empty one is put in. -/
def closeParagraphTag (b : Builder) : Builder :=
  if b.inScope (·.boundsParagraphScope) "p" then b.closeParagraph
  else ((b.report .noParagraphToClose).insertMissing "p").closeParagraph

/-- The end tag of an object also ends the formatting inside it. -/
def closeObject (b : Builder) (tag : String) : Builder :=
  if b.inScope (·.boundsScope) tag then (b.closeImplied.close tag).clearFormatting
  else b.unexpected

/-- An end tag in a body. -/
def bodyEnd (b : Builder) (t : Tag) : Step :=
  match EndRole.ofTag t.name with
  | .template => b.templateEnd
  | .body =>
    if b.inScope (·.boundsScope) "body" then b.checkEnd.doneIn .afterBody
    else (b.report .bodyEndWithoutBody).done
  | .html =>
    if b.inScope (·.boundsScope) "body" then b.checkEnd.againIn .afterBody (.endTag t)
    else (b.report .htmlEndWithoutBody).done
  | .block => (b.closeInScope t.name).done
  | .form => b.closeForm.done
  | .paragraph => b.closeParagraphTag.done
  | .item => (b.closeItem t.name).done
  | .heading => (b.closeHeading t.name).done
  | .formatting => (b.closeFormatting t.name).done
  | .object => (b.closeObject t.name).done
  | .lineBreak => b.unexpected.insertBodyVoid { name := t.name }
  | .other => (b.closeGeneric t.name).done

/-- The rules for the content of a body. -/
def bodyRules (b : Builder) (t : Token) : Step :=
  match t with
  | .null => b.unexpected.done
  | .text cs => (b.bodyText cs).done
  | .comment s => (b.insertComment s).done
  | .doctype _ => b.done
  | .startTag tag => b.bodyStart tag
  | .endTag tag => b.bodyEnd tag
  | .sourceEnd => if b.templateModes.isEmpty then b.checkEnd.done else b.sourceEndInTemplate

/-- The rules for the content of a body, where whatever is inserted into a table goes in front of
it. -/
def fosterRules (b : Builder) (t : Token) : Step :=
  let b := { b with fostering := true, misplaced := b.misplaced + 1 }
  let (b, outcome) := b.bodyRules t
  ({ b with fostering := false }, outcome)

end Builder

end HtmlText
