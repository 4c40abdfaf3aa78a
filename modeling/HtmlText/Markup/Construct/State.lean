import HtmlText.Markup.Dom
import HtmlText.Markup.Lexer

/-!
# The state of construction

A document is constructed token by token. The state holds the draft, the elements that are open,
innermost first, the formatting that is in force, latest first, and the mode that says which rules
the next token falls under.

## Main definitions

* `ConstructMode`: which rules apply.
* `OpenElement`, `Formatting`: entries of the two lists.
* `Builder`: the state.
* `Outcome`: what became of a token.
* Operations on the state: reporting, searching and closing open elements, inserting nodes.
-/

namespace HtmlText

/-- Which rules a token falls under. -/
inductive ConstructMode
  | initial
  | beforeHtml
  | beforeHead
  | inHead
  | afterHead
  | inBody
  | rawText
  | inTable
  | inTableText
  | inCaption
  | inColumnGroup
  | inTableBody
  | inRow
  | inCell
  | inSelect
  | inSelectInTable
  | inTemplate
  | afterBody
  | inFrameset
  | afterFrameset
  | afterAfterBody
  | afterAfterFrameset
deriving Repr, DecidableEq

/-- An element that is open: its number in the draft and its name. -/
structure OpenElement where
  id : Nat
  name : ElementName
deriving Repr, DecidableEq

/-- Formatting in force. -/
inductive Formatting
  /-- Formatting further back does not reach in here. -/
  | marker
  /-- An element, with the tag to make it again from. -/
  | element (id : Nat) (tag : Tag)
deriving Repr, DecidableEq

/-- The state of construction. -/
structure Builder where
  draft : Draft := .empty
  /-- The problems so far, latest first. -/
  problems : List Problem := []
  mode : ConstructMode := .initial
  /-- The mode to go back to behind raw text and behind the text of a table. -/
  returnMode : ConstructMode := .initial
  /-- The modes of the open templates, innermost first. -/
  templateModes : List ConstructMode := []
  /-- The open elements, innermost first. -/
  stack : List OpenElement := []
  /-- The formatting in force, latest first. -/
  formatting : List Formatting := []
  head : Option Nat := none
  form : Option Nat := none
  /-- The text of a table that has not been put anywhere, latest first. -/
  tableText : List (List Char) := []
  /-- A frameset may still take the place of the body. -/
  framesetAllowed : Bool := true
  /-- A line feed right here does not count. -/
  dropLineFeed : Bool := false
  /-- What is inserted into a table goes in front of it. -/
  fostering : Bool := false
  /-- The number of tokens so far that did not belong into the table where they stood. -/
  misplaced : Nat := 0
  /-- The source is the content of a body. -/
  fragment : Bool := false
  /-- The document is laid out the old way: a table does not end a paragraph. -/
  oldLayout : Bool := false
  /-- How the text that follows is read. -/
  textMode : TextMode := .markup
deriving Repr, DecidableEq

/-- What became of a token. -/
inductive Outcome
  /-- It is dealt with. -/
  | done
  /-- It is dealt with, and may have been self-closing. -/
  | acknowledged
  /-- It falls under the rules of the mode as it is now. -/
  | again (t : Token)
deriving Repr, DecidableEq

/-- The state after a token, and what became of the token. -/
abbrev Step := Builder × Outcome

/-- The longest run of source blanks, or of other characters, at the beginning of a text. -/
def splitRun (cs : List Char) : List Char × List Char :=
  match cs with
  | [] => ([], [])
  | c :: _ =>
    let same (d : Char) : Bool := isMarkupBlank d == isMarkupBlank c
    (cs.takeWhile same, cs.dropWhile same)

/-- A text of source blanks only. -/
def isBlankRun (cs : List Char) : Bool := cs.all isMarkupBlank

namespace Builder

/-- A token is dealt with. -/
def done (b : Builder) : Step := (b, .done)

/-- A token is dealt with, and may have been self-closing. -/
def acknowledged (b : Builder) : Step := (b, .acknowledged)

/-- Look at a token again. -/
def again (b : Builder) (t : Token) : Step := (b, .again t)

/-- Look at a token again under the rules of another mode. -/
def againIn (b : Builder) (mode : ConstructMode) (t : Token) : Step :=
  ({ b with mode }, .again t)

/-- Go over to another mode. -/
def doneIn (b : Builder) (mode : ConstructMode) : Step := ({ b with mode }, .done)

/-- Add a problem. -/
def report (b : Builder) (p : Problem) : Builder := { b with problems := p :: b.problems }

/-- A token does not belong here. -/
def unexpected (b : Builder) : Builder := b.report .unexpectedToken

/-! ### Open elements -/

/-- The innermost open element; before there is one, the document. -/
def current (b : Builder) : OpenElement := b.stack.headD ⟨0, .html ""⟩

/-- Whether the innermost open element has one of the given names. -/
def currentIn (b : Builder) (tags : List String) : Bool := b.current.name.isHtmlIn tags

/-- The name that decides whether a token is foreign. In a fragment it is not the one of the
outermost element but the one of the body that the fragment is the content of. -/
def contextName (b : Builder) : ElementName :=
  if b.fragment && b.stack.length = 1 then .html "body" else b.current.name

/-- Whether the innermost open element is part of a formula or drawing. -/
def inForeign (b : Builder) : Bool := !b.stack.isEmpty && b.contextName.vocabulary != .html

/-- Whether an element with the given name of HTML is open. -/
def hasOpen (b : Builder) (tag : String) : Bool := b.stack.any (·.name = .html tag)

/-- Whether a search through open elements, innermost first, finds one before it comes to a
bound. -/
def findsInScope (bounds : ElementName → Bool) (wanted : OpenElement → Bool) :
    List OpenElement → Bool
  | [] => false
  | e :: stack => wanted e || (!bounds e.name && findsInScope bounds wanted stack)

/-- Whether an element with the given name of HTML is in scope. -/
def inScope (b : Builder) (bounds : ElementName → Bool) (tag : String) : Bool :=
  findsInScope bounds (·.name = .html tag) b.stack

/-- Close the innermost open element. -/
def pop (b : Builder) : Builder := { b with stack := b.stack.tail }

/-- Close the innermost open elements as long as they satisfy a test. -/
def popWhile (b : Builder) (test : ElementName → Bool) : Builder :=
  { b with stack := b.stack.dropWhile fun e => test e.name }

/-- Close open elements up to the first one that satisfies a test, that one included. -/
def popThrough (b : Builder) (test : ElementName → Bool) : Builder :=
  (b.popWhile fun name => !test name).pop

/-- Close the elements whose end tags may be left out. -/
def closeImplied (b : Builder) : Builder := b.popWhile (·.hasImpliedEnd)

/-- Close the elements whose end tags may be left out, but none with the given name. -/
def closeImpliedExcept (b : Builder) (tag : String) : Builder :=
  b.popWhile fun name => name.hasImpliedEnd && name ≠ .html tag

/-- Close an element with the given name, which should be the innermost one. -/
def close (b : Builder) (tag : String) : Builder :=
  let closed := b.popThrough (· = .html tag)
  if b.current.name = .html tag then closed else closed.report .unexpectedOpenElement

/-- Close a paragraph. -/
def closeParagraph (b : Builder) : Builder := (b.closeImpliedExcept "p").close "p"

/-- Close the paragraph that a block ends, if there is one. -/
def endParagraph (b : Builder) : Builder :=
  if b.inScope (·.boundsParagraphScope) "p" then b.closeParagraph else b

/-- Take an element out of the open ones, wherever it is. -/
def removeOpen (b : Builder) (id : Nat) : Builder :=
  { b with stack := b.stack.eraseP (·.id = id) }

/-- Forget the formatting since the last marker, and the marker. -/
def clearFormatting (b : Builder) : Builder :=
  { b with formatting := (b.formatting.dropWhile (· ≠ .marker)).tail }

/-- Set a marker. -/
def markFormatting (b : Builder) : Builder := { b with formatting := .marker :: b.formatting }

/-- Report the first element, from the outermost on, that should not be open at the end. -/
def checkEnd (b : Builder) : Builder :=
  if b.stack.all (·.name.mayStayOpen) then b else b.report .elementOpenAtEnd

/-! ### The mode that fits the open elements -/

/-- The mode of a selection, given the elements around it. -/
def selectMode : List OpenElement → ConstructMode
  | [] => .inSelect
  | e :: stack =>
    if e.name = .html "template" then .inSelect
    else if e.name = .html "table" then .inSelectInTable
    else selectMode stack

/-- The mode for a name, given the elements around it. -/
def modeFor (b : Builder) (name : ElementName) (around : List OpenElement) :
    Option ConstructMode :=
  if name.vocabulary ≠ .html then none
  else if name.tag = "select" then some (selectMode around)
  else if name.isCell then (if around.isEmpty then none else some .inCell)
  else if name.tag = "tr" then some .inRow
  else if name.isHtmlIn ["tbody", "thead", "tfoot"] then some .inTableBody
  else if name.tag = "caption" then some .inCaption
  else if name.tag = "colgroup" then some .inColumnGroup
  else if name.tag = "table" then some .inTable
  else if name.tag = "template" then some (b.templateModes.headD .inBody)
  else if name.tag = "head" then (if around.isEmpty then none else some .inHead)
  else if name.tag = "body" then some .inBody
  else if name.tag = "frameset" then some .inFrameset
  else if name.tag = "html" then some (if b.head.isNone then .beforeHead else .afterHead)
  else none

/-- The mode that fits open elements. The outermost one of a fragment stands for a body. -/
def fittingModeOf (b : Builder) : List OpenElement → ConstructMode
  | [] => .inBody
  | e :: around =>
    let name := if around.isEmpty && b.fragment then .html "body" else e.name
    (b.modeFor name around).getD (b.fittingModeOf around)

/-- The mode that fits the open elements. -/
def fittingMode (b : Builder) : ConstructMode := b.fittingModeOf b.stack

/-! ### Inserting nodes -/

/-- Where a node goes. -/
inductive Place
  /-- Behind the children of a node. -/
  | inside (parent : Nat)
  /-- In front of a table, or inside the element around it if the table has no place itself. -/
  | beforeTable (table around : Nat)
deriving Repr, DecidableEq

/-- Where misplaced content of a table goes, given the open elements. -/
def fosterPlace (d : Draft) : List OpenElement → Place
  | [] => .inside 0
  | [root] => .inside root.id
  | e :: around :: stack =>
    if e.name = .html "template" then .inside (d.contents e.id)
    else if e.name = .html "table" then .beforeTable e.id around.id
    else fosterPlace d (around :: stack)

/-- Where the next node goes if it is meant for a given element. -/
def placeIn (b : Builder) (target : OpenElement) : Place :=
  if b.fostering && target.name.isTableFrame then fosterPlace b.draft b.stack
  else .inside (b.draft.contents target.id)

/-- Put a node in a place. -/
def putNode (b : Builder) (place : Place) (id : Nat) : Builder :=
  { b with
    draft := match place with
      | .inside parent => b.draft.append parent id
      | .beforeTable table around =>
        match b.draft.parent? table with
        | some parent => b.draft.insertBefore parent table id
        | none => b.draft.append around id }

/-- Insert text at the current place. -/
def insertText (b : Builder) (cs : List Char) : Builder :=
  let s := String.ofList cs
  { b with
    draft := match b.placeIn b.current with
      | .inside parent => b.draft.appendText parent s
      | .beforeTable table around =>
        match b.draft.parent? table with
        | some parent => b.draft.insertTextBefore parent table s
        | none => b.draft.appendText around s }

/-- Add a comment behind the children of a node. -/
def commentIn (b : Builder) (parent : Nat) (s : String) : Builder :=
  let (draft, id) := b.draft.add (.comment s)
  { b with draft := draft.append parent id }

/-- Insert a comment at the current place. -/
def insertComment (b : Builder) (s : String) : Builder :=
  let (draft, id) := b.draft.add (.comment s)
  { b with draft }.putNode (b.placeIn b.current) id

/-- Insert an element at the current place without opening it. -/
def insertClosed (b : Builder) (name : ElementName) (attributes : List (String × String)) :
    Builder × Nat :=
  let (draft, id) := b.draft.addElement name attributes
  ({ b with draft }.putNode (b.placeIn b.current) id, id)

/-- Insert an element at the current place and open it. -/
def insertOpen (b : Builder) (name : ElementName) (attributes : List (String × String)) :
    Builder × Nat :=
  let (b, id) := b.insertClosed name attributes
  ({ b with stack := ⟨id, name⟩ :: b.stack }, id)

/-- Insert and open the element of a start tag. -/
def insertTag (b : Builder) (t : Tag) : Builder := (b.insertOpen (.html t.name) t.attributes).1

/-- Insert and open an element that the source left out. -/
def insertMissing (b : Builder) (tag : String) : Builder := (b.insertOpen (.html tag) []).1

/-- Insert the element of a start tag, which has no content. -/
def insertVoid (b : Builder) (t : Tag) : Builder := (b.insertClosed (.html t.name) t.attributes).1

/-- Make the root element. -/
def insertRoot (b : Builder) (attributes : List (String × String)) : Builder :=
  let (draft, id) := b.draft.addElement (.html "html") attributes
  { b with draft := draft.append 0 id, stack := ⟨id, .html "html"⟩ :: b.stack }

/-- Insert the element of a start tag, whose text is read in a way of its own. -/
def beginRawText (b : Builder) (t : Tag) (textMode : TextMode) : Step :=
  ({ b.insertTag t with returnMode := b.mode, mode := .rawText, textMode }, .acknowledged)

/-- The outermost open element. -/
def root? (b : Builder) : Option OpenElement := b.stack.getLast?

/-- The body, if it is the second open element. -/
def body? (b : Builder) : Option OpenElement :=
  match b.stack.reverse with
  | _ :: body :: _ => if body.name = .html "body" then some body else none
  | _ => none

/-- Give an open element those of the attributes of a tag that it does not have. -/
def completeAttributes (b : Builder) (e : Option OpenElement) (t : Tag) : Builder :=
  match e with
  | none => b
  | some e => { b with draft := b.draft.addMissingAttributes e.id t.attributes }

/-- Rule out a frameset. -/
def forbidFrameset (b : Builder) : Builder := { b with framesetAllowed := false }

end Builder

end HtmlText
