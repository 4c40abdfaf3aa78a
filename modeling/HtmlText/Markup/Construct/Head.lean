import HtmlText.Markup.Construct.Formatting

/-!
# Rules for the head and for templates

What belongs into the head of a document is kept wherever it comes up, so its rules are used by many
modes. Templates are among it: their content is constructed by rules of its own.

## Main definitions

* `Builder.htmlStart`: the start tag of the root element.
* `Builder.headContent`: the start tags of what belongs into the head.
* `Builder.headRules`: the rules in the head.
* `Builder.templateEnd`, `Builder.sourceEndInTemplate`: the end of a template.
-/

namespace HtmlText

namespace Builder

/-- A start tag of the root element, which is there already, can only add attributes to it. -/
def htmlStart (b : Builder) (t : Tag) : Step :=
  let b := b.unexpected
  (if b.hasOpen "template" then b else b.completeAttributes b.root? t).done

/-- The end tag of a template. -/
def templateEnd (b : Builder) : Step :=
  if b.hasOpen "template" then
    let b := ((b.popWhile (·.hasImpliedEndInTemplate)).close "template").clearFormatting
    let b := { b with templateModes := b.templateModes.tail }
    b.doneIn b.fittingMode
  else b.unexpected.done

/-- The source ends in the rules of a template. -/
def sourceEndInTemplate (b : Builder) : Step :=
  if b.hasOpen "template" then
    let b := (b.unexpected.popThrough (· = .html "template")).clearFormatting
    let b := { b with templateModes := b.templateModes.tail }
    b.againIn b.fittingMode .sourceEnd
  else b.done

/-- The start tag of something that belongs into the head. -/
def headContent (b : Builder) (t : Tag) : Step :=
  if t.name = "title" then b.beginRawText t (.escapable t.name)
  else if ["noframes", "style", "noscript"].contains t.name then b.beginRawText t (.raw t.name)
  else if t.name = "script" then b.beginRawText t .script
  else if t.name = "template" then
    let b := ((b.insertTag t).markFormatting).forbidFrameset
    { b with templateModes := .inTemplate :: b.templateModes }.doneIn .inTemplate
  else (b.insertVoid t).acknowledged

/-- The head ends because a token does not belong into it. -/
def leaveHead (b : Builder) (t : Token) : Step := b.pop.againIn .afterHead t

/-- The rules in the head. -/
def headRules (b : Builder) (t : Token) : Step :=
  match t with
  | .text cs => if isBlankRun cs then (b.insertText cs).done else b.leaveHead t
  | .comment s => (b.insertComment s).done
  | .startTag tag =>
    if tag.name = "html" then b.htmlStart tag
    else if isHeadContent tag.name || tag.name = "noscript" then b.headContent tag
    else if tag.name = "head" then b.unexpected.done
    else b.leaveHead t
  | .endTag tag =>
    if tag.name = "head" then b.pop.doneIn .afterHead
    else if tag.name = "template" then b.templateEnd
    else if ["body", "html", "br"].contains tag.name then b.leaveHead t
    else b.unexpected.done
  | _ => b.leaveHead t

end Builder

end HtmlText
