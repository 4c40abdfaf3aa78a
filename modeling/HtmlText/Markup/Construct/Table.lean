import HtmlText.Markup.Construct.Body

/-!
# Rules for tables

A table has rows in sections, captions and columns. Sections and rows that the source leaves out are
put in. What does not belong into a table is constructed by the rules for the body and put in front
of the table.

## Main definitions

* `Builder.tableRules`: the rules in a table.
* `Builder.tableTextRules`: the rules behind text in a table.
* `Builder.captionRules`, `Builder.columnGroupRules`, `Builder.tableBodyRules`, `Builder.rowRules`,
  `Builder.cellRules`: the rules in the parts of a table.
-/

namespace HtmlText

namespace Builder

/-- Close the elements inside the one that holds rows or cells, or inside the table. -/
def clearTo (b : Builder) (test : ElementName → Bool) : Builder := b.popWhile (!test ·)

/-- Whether an element with the given name is in the scope of a table. -/
def inTableScope (b : Builder) (tag : String) : Bool := b.inScope (·.boundsTableScope) tag

/-! ### In the table itself -/

/-- Text in a table is collected until it is known whether it is blank. -/
def textInTable (b : Builder) (t : Token) : Step :=
  if b.current.name.isTableFrame then
    { b with returnMode := b.mode }.againIn .inTableText t
  else (b.report .charactersInTable).fosterRules t

/-- A token that does not belong into a table. -/
def misplacedInTable (b : Builder) (t : Token) : Step := b.unexpected.fosterRules t

/-- Close the table. -/
def closeTable (b : Builder) : Builder :=
  let b := b.popThrough (· = .html "table")
  { b with mode := b.fittingMode }

/-- A start tag in a table. -/
def tableStart (b : Builder) (t : Tag) : Step :=
  let token := Token.startTag t
  if t.name = "caption" then
    (((b.clearTo (·.boundsTableScope)).markFormatting).insertTag t).doneIn .inCaption
  else if t.name = "colgroup" then
    ((b.clearTo (·.boundsTableScope)).insertTag t).doneIn .inColumnGroup
  else if t.name = "col" then
    ((b.clearTo (·.boundsTableScope)).insertMissing "colgroup").againIn .inColumnGroup token
  else if ["tbody", "tfoot", "thead"].contains t.name then
    ((b.clearTo (·.boundsTableScope)).insertTag t).doneIn .inTableBody
  else if ["td", "th", "tr"].contains t.name then
    ((b.clearTo (·.boundsTableScope)).insertMissing "tbody").againIn .inTableBody token
  else if t.name = "table" then
    let b := b.unexpected
    if b.inTableScope "table" then b.closeTable.again token else b.done
  else if ["style", "script", "template"].contains t.name then b.headContent t
  else if t.name = "input" then
    if isHiddenInput t then (b.unexpected.insertVoid t).acknowledged else b.misplacedInTable token
  else if t.name = "form" then
    let b := b.unexpected
    if b.hasOpen "template" || b.form.isSome then b.done
    else
      let (b, id) := b.insertClosed (.html "form") t.attributes
      { b with form := some id }.done
  else b.misplacedInTable token

/-- An end tag in a table. -/
def tableEnd (b : Builder) (t : Tag) : Step :=
  if t.name = "table" then
    if b.inTableScope "table" then b.closeTable.done else b.unexpected.done
  else if ["body", "caption", "col", "colgroup", "html", "tbody", "td", "tfoot", "th", "thead",
      "tr"].contains t.name then b.unexpected.done
  else if t.name = "template" then b.templateEnd
  else b.misplacedInTable (.endTag t)

/-- The rules in a table. -/
def tableRules (b : Builder) (t : Token) : Step :=
  match t with
  | .null | .text _ => b.textInTable t
  | .comment s => (b.insertComment s).done
  | .startTag tag => b.tableStart tag
  | .endTag tag => b.tableEnd tag
  | .sourceEnd => b.bodyRules t
  | .doctype _ => b.done

/-- Put the collected text of a table where it belongs: blanks into the table, other text in front
of it. -/
def placeTableText (b : Builder) : Builder :=
  let pieces := b.tableText.reverse
  let b := { b with tableText := [] }
  if pieces.all isBlankRun then pieces.foldl (fun b cs => b.insertText cs) b
  else pieces.foldl (fun b cs => (b.fosterRules (.text cs)).1) (b.report .textInTable)

/-- The rules behind text in a table. -/
def tableTextRules (b : Builder) (t : Token) : Step :=
  match t with
  | .null => b.unexpected.done
  | .text cs => { b with tableText := cs :: b.tableText }.done
  | _ =>
    let b := b.placeTableText
    b.againIn b.returnMode t

/-! ### In the parts of a table -/

/-- The rules in a caption. -/
def captionRules (b : Builder) (t : Token) : Step :=
  let leave (b : Builder) (step : Builder → Step) : Step :=
    if b.inTableScope "caption" then step ((b.closeImplied.close "caption").clearFormatting)
    else b.unexpected.done
  match t with
  | .startTag tag =>
    if isTablePart tag.name then leave b (·.againIn .inTable t) else b.bodyRules t
  | .endTag tag =>
    if tag.name = "caption" then leave b (·.doneIn .inTable)
    else if tag.name = "table" then leave b (·.againIn .inTable t)
    else if ["body", "col", "colgroup", "html", "tbody", "td", "tfoot", "th", "thead",
        "tr"].contains tag.name then b.unexpected.done
    else b.bodyRules t
  | _ => b.bodyRules t

/-- A token ends a group of columns. -/
def leaveColumnGroup (b : Builder) (t : Token) : Step :=
  if b.currentIn ["colgroup"] then b.pop.againIn .inTable t else b.unexpected.done

/-- The rules in a group of columns. -/
def columnGroupRules (b : Builder) (t : Token) : Step :=
  match t with
  | .text cs => if isBlankRun cs then (b.insertText cs).done else b.leaveColumnGroup t
  | .comment s => (b.insertComment s).done
  | .startTag tag =>
    if tag.name = "html" then b.htmlStart tag
    else if tag.name = "col" then (b.insertVoid tag).acknowledged
    else if tag.name = "template" then b.headContent tag
    else b.leaveColumnGroup t
  | .endTag tag =>
    if tag.name = "colgroup" then
      if b.currentIn ["colgroup"] then b.pop.doneIn .inTable else b.unexpected.done
    else if tag.name = "col" then b.unexpected.done
    else if tag.name = "template" then b.templateEnd
    else b.leaveColumnGroup t
  | .sourceEnd => b.bodyRules t
  | _ => b.leaveColumnGroup t

/-- A token ends a section of a table. -/
def leaveTableBody (b : Builder) (t : Token) : Step :=
  if findsInScope (·.boundsTableScope) (·.name.isHtmlIn ["table", "tbody", "tfoot"]) b.stack then
    (b.clearTo (·.holdsRows)).pop.againIn .inTable t
  else b.unexpected.done

/-- The rules in a section of a table. -/
def tableBodyRules (b : Builder) (t : Token) : Step :=
  match t with
  | .startTag tag =>
    if tag.name = "tr" then ((b.clearTo (·.holdsRows)).insertTag tag).doneIn .inRow
    else if ["th", "td"].contains tag.name then
      ((b.unexpected.clearTo (·.holdsRows)).insertMissing "tr").againIn .inRow t
    else if isTablePart tag.name then b.leaveTableBody t
    else b.tableRules t
  | .endTag tag =>
    if ["tbody", "tfoot", "thead"].contains tag.name then
      if b.inTableScope tag.name then (b.clearTo (·.holdsRows)).pop.doneIn .inTable
      else b.unexpected.done
    else if tag.name = "table" then b.leaveTableBody t
    else if ["body", "caption", "col", "colgroup", "html", "td", "th", "tr"].contains tag.name then
      b.unexpected.done
    else b.tableRules t
  | _ => b.tableRules t

/-- Close the row and go on with its section. -/
def closeRow (b : Builder) : Builder := (b.clearTo (·.holdsCells)).pop

/-- A token ends a row. -/
def leaveRow (b : Builder) (t : Token) : Step :=
  if b.inTableScope "tr" then b.closeRow.againIn .inTableBody t else b.unexpected.done

/-- The rules in a row. -/
def rowRules (b : Builder) (t : Token) : Step :=
  match t with
  | .startTag tag =>
    if ["th", "td"].contains tag.name then
      (((b.clearTo (·.holdsCells)).insertTag tag).markFormatting).doneIn .inCell
    else if isTablePart tag.name then b.leaveRow t
    else b.tableRules t
  | .endTag tag =>
    if tag.name = "tr" then
      if b.inTableScope "tr" then b.closeRow.doneIn .inTableBody else b.unexpected.done
    else if tag.name = "table" then b.leaveRow t
    else if ["tbody", "tfoot", "thead"].contains tag.name then
      if !b.inTableScope tag.name then b.unexpected.done
      else if b.inTableScope "tr" then b.closeRow.againIn .inTableBody t
      else b.done
    else if ["body", "caption", "col", "colgroup", "html", "td", "th"].contains tag.name then
      b.unexpected.done
    else b.tableRules t
  | _ => b.tableRules t

/-- Close the cell. -/
def closeCell (b : Builder) : Builder :=
  let b := b.closeImplied
  let closed := b.popThrough (·.isCell)
  (if b.current.name.isCell then closed else closed.report .cellNotCurrent).clearFormatting

/-- The rules in a cell. -/
def cellRules (b : Builder) (t : Token) : Step :=
  match t with
  | .startTag tag =>
    if isTablePart tag.name then
      if findsInScope (·.boundsTableScope) (·.name.isCell) b.stack then
        b.closeCell.againIn .inRow t
      else b.unexpected.done
    else b.bodyRules t
  | .endTag tag =>
    if ["td", "th"].contains tag.name then
      if b.inTableScope tag.name then
        ((b.closeImplied.close tag.name).clearFormatting).doneIn .inRow
      else b.unexpected.done
    else if ["body", "caption", "col", "colgroup", "html"].contains tag.name then b.unexpected.done
    else if ["table", "tbody", "tfoot", "thead", "tr"].contains tag.name then
      if b.inTableScope tag.name then b.closeCell.againIn .inRow t else b.unexpected.done
    else b.bodyRules t
  | _ => b.bodyRules t

end Builder

end HtmlText
